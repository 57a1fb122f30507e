import Groupwise.Json.Reader
import Groupwise.Json.Value
import Groupwise.Proofs.Digits
import Mathlib

/-!
# Reading back written values

A reader reads a value as `a` (`Json.Reads`) if it takes the text of the value off the front of any
text that goes on like an array or an object, and makes `a` of it. The lemmas say so of each reader
and the values it expects; a record is read member by member (`Fills`), whatever its fields are.
-/

namespace Groupwise.Json

variable {α β σ : Type}

/-! ### Steps of readers -/

namespace Reader

lemma bind_apply {r : Reader α} {f : α → Reader β} {s t : List Char} {a : α}
    (h : r s = .ok (a, t)) : (r >>= f) s = f a t := by
  show (r s >>= fun p => f p.1 p.2) = _
  rw [h]
  rfl

lemma pure_apply (a : α) (s : List Char) : (pure a : Reader α) s = .ok (a, s) := rfl

lemma map_apply {r : Reader α} (f : α → β) {s t : List Char} {a : α} (h : r s = .ok (a, t)) :
    (f <$> r) s = .ok (f a, t) := by
  show (r s >>= fun p => .ok (f p.1, p.2)) = _
  rw [h]
  rfl

lemma peek_cons {c : Char} (hc : isBlank c = false) (s : List Char) :
    peek (c :: s) = .ok (some c, c :: s) := by
  show Except.ok (((c :: s).dropWhile isBlank).head?, (c :: s).dropWhile isBlank) = _
  rw [List.dropWhile_cons_of_neg (by simp [hc])]
  rfl

lemma advance_cons (c : Char) (s : List Char) : advance (c :: s) = .ok ((), s) := rfl

lemma get_apply (s : List Char) : (get : Reader (List Char)) s = .ok (s, s) := rfl

lemma literal_append (word s : List Char) : literal word (word ++ s) = .ok ((), s) := by
  induction word with
  | nil => cases s <;> rfl
  | cons c word ih =>
    show (if c = c then literal word (word ++ s) else _) = _
    rw [if_pos rfl, ih]

end Reader

/-! ### What follows a value -/

/-- The text goes on as it does behind a value in an array or an object. -/
def Behind (rest : List Char) : Prop := ∀ c ∈ rest.head?, c = ',' ∨ c = ']' ∨ c = '}'

lemma behind_cons {c : Char} (hc : c = ',' ∨ c = ']' ∨ c = '}') (s : List Char) :
    Behind (c :: s) := by
  intro d hd
  exact Option.some.inj hd ▸ hc

lemma Behind.nil : Behind [] := by
  intro c hc
  cases hc

lemma Behind.isDigit {rest : List Char} (h : Behind rest) :
    ∀ c ∈ rest.head?, c.isDigit = false := by
  intro c hc
  rcases h c hc with rfl | rfl | rfl <;> rfl

/-- The reader makes `a` of the text of the value. -/
def Reads (r : Reader α) (v : Value) (a : α) : Prop :=
  ∀ rest, Behind rest → r (v.chars ++ rest) = .ok (a, rest)

lemma Reads.run {r : Reader α} {v : Value} {a : α} (h : Reads r v a) :
    r.run v.render = .ok a := by
  have hv : r v.render.toList = .ok (a, []) := by
    rw [Value.render, String.toList_ofList, ← List.append_nil v.chars]
    exact h [] .nil
  rw [Reader.run, hv]
  rfl

lemma Reads.map {r : Reader α} {v : Value} {a : α} (h : Reads r v a) (f : α → β) :
    Reads (do return f (← r)) v (f a) := by
  intro rest hrest
  rw [Reader.bind_apply (h rest hrest), Reader.pure_apply]

/-! ### Strings -/

lemma codeUnit_digitChar {n : Nat} (hn : n < 0x20) :
    codeUnit '0' '0' (Nat.digitChar (n / 16)) (Nat.digitChar (n % 16)) = some n := by
  have hzero : Hex.value? '0' = some 0 := rfl
  simp only [codeUnit, hzero, Hex.value?_digitChar (show n / 16 < 16 by omega),
    Hex.value?_digitChar (Nat.mod_lt n (by decide : 0 < 16)), Option.bind_eq_bind,
    Option.bind_some, Option.pure_def]
  congr 1
  omega

lemma unquote_escape (c : Char) (s : List Char) :
    unquote (escape c ++ s) = pushChar c (unquote s) := by
  unfold escape
  split_ifs with h₁ h₂ h₃ h₄ h₅ h₆ h₇ h₈
  · subst h₁; simp [unquote, shortEscape]
  · subst h₂; simp [unquote, shortEscape]
  · subst h₃; simp [unquote, shortEscape]
  · subst h₄; simp [unquote, shortEscape]
  · subst h₅; simp [unquote, shortEscape]
  · subst h₆; simp [unquote, shortEscape]
  · subst h₇; simp [unquote, shortEscape]
  · have hsmall : c.toNat < 0xD800 ∨ 0xDFFF < c.toNat := .inl (by omega)
    simp only [List.cons_append, List.nil_append, unquote, codeUnit_digitChar h₈, if_pos hsmall,
      Char.ofNat_toNat]
  · show unquote (c :: s) = _
    rw [unquote.eq_def]
    split <;> simp_all

lemma unquote_escaped (cs rest : List Char) :
    unquote (cs.flatMap escape ++ '"' :: rest) = .ok (cs, rest) := by
  induction cs with
  | nil => rw [List.flatMap_nil, List.nil_append, unquote]
  | cons c cs ih =>
    rw [List.flatMap_cons, List.append_assoc, unquote_escape, ih]
    rfl

namespace Reader

lemma quoted_apply (s : String) (rest : List Char) :
    quoted (s.toList.flatMap escape ++ '"' :: rest) = .ok (s, rest) := by
  show (unquote _).map _ = _
  rw [unquote_escaped]
  simp only [Except.map, String.ofList_toList]

lemma quote_append (cs rest : List Char) :
    quote cs ++ rest = '"' :: (cs.flatMap escape ++ '"' :: rest) := by
  simp [quote]

lemma string_apply (s : String) (rest : List Char) :
    string (quote s.toList ++ rest) = .ok (s, rest) := by
  rw [quote_append, string, bind_apply (peek_cons (by rfl) _)]
  exact quoted_apply s rest

end Reader

lemma reads_string (s : String) : Reads Reader.string (.string s) s := by
  intro rest _
  exact Reader.string_apply s rest

lemma reads_parsed {parse : String → Option α} {s : String} {a : α} (h : parse s = some a) :
    Reads (Reader.parsed parse) (.string s) a := by
  intro rest hrest
  rw [Reader.parsed, Reader.bind_apply (reads_string s rest hrest), h]
  rfl

lemma reads_choice {parse : String → Option α} {s : String} {a : α} (h : parse s = some a) :
    Reads (Reader.choice parse) (.string s) a := by
  intro rest hrest
  have htext : (Value.string s).chars ++ rest = quote s.toList ++ rest := by rw [Value.chars]
  have hname : Reader.name parse (quote s.toList ++ rest) = .ok (a, rest) := by
    have hparsed := reads_parsed h rest hrest
    rw [htext, Reader.quote_append] at hparsed
    rw [Reader.quote_append, Reader.name, Reader.bind_apply (Reader.peek_cons (by rfl) _)]
    exact hparsed
  rw [htext, Reader.choice]
  rw [Reader.quote_append] at hname ⊢
  rw [Reader.bind_apply (Reader.peek_cons (by rfl) _)]
  exact hname

/-! ### Numbers -/

lemma isBlank_of_isDigit {c : Char} (hc : c.isDigit = true) : Reader.isBlank c = false := by
  by_contra hblank
  simp only [Reader.isBlank, decide_eq_false_iff_not, not_not] at hblank
  rcases hblank with rfl | rfl | rfl | rfl <;> cases hc

lemma extend_eq {cs : List Char} {n : Nat} (h : Nat.ofDigitChars 10 cs n < significandBound) :
    extend n cs = (Nat.ofDigitChars 10 cs n, 0) := by
  induction cs generalizing n with
  | nil => rfl
  | cons c cs ih =>
    rw [Nat.ofDigitChars_cons] at h ⊢
    show (if _ < significandBound then extend _ cs else _) = _
    rw [if_pos (ofDigitChars_le.trans_lt h), ih h]

namespace Reader

lemma next_apply (s : List Char) : next s = .ok (s.head?, s) := rfl

lemma digits_apply {cs rest : List Char} (hcs : ∀ c ∈ cs, c.isDigit = true)
    (hrest : ∀ c ∈ rest.head?, c.isDigit = false) : digits (cs ++ rest) = .ok (cs, rest) := by
  rw [digits, takeWhile_append_stop hcs hrest, dropWhile_append_stop hcs hrest]

lemma afterWhole_apply (n : Nat) {rest : List Char} (hrest : Behind rest) :
    afterWhole false n 0 rest = .ok (.natural n, rest) := by
  rw [afterWhole, bind_apply (next_apply rest)]
  cases rest with
  | nil => rfl
  | cons c rest => rcases hrest c rfl with rfl | rfl | rfl <;> rfl

lemma unsigned_apply {n : Nat} (hn : n < wordBound) {rest : List Char} (hrest : Behind rest) :
    unsigned false (Nat.toDigits 10 n ++ rest) = .ok (.natural n, rest) := by
  rw [unsigned, bind_apply (next_apply _)]
  -- No digit may follow a zero at the front, so zero is read apart from all other numbers.
  rcases Nat.eq_zero_or_pos n with rfl | hpos
  · rw [Nat.toDigits_zero, List.singleton_append]
    show (advance >>= _) _ = _
    rw [bind_apply (advance_cons '0' rest),
      bind_apply (next_apply rest)]
    cases hhead : rest.head? with
    | none => exact afterWhole_apply 0 hrest
    | some d =>
      simp only [hrest.isDigit d hhead]
      exact afterWhole_apply 0 hrest
  · have hdigits : ∀ c ∈ Nat.toDigits 10 n, c.isDigit = true := fun c => isDigit_of_mem_toDigits
    have hzero := head?_toDigits_ne_zero hpos
    have hextend : extend 0 (Nat.toDigits 10 n) = (n, 0) := by
      rw [extend_eq (by rwa [Nat.ofDigitChars_ten_toDigits]), Nat.ofDigitChars_ten_toDigits]
    rw [List.head?_append_of_ne_nil _ Nat.toDigits_ne_nil]
    cases hcs : Nat.toDigits 10 n with
    | nil => exact absurd hcs Nat.toDigits_ne_nil
    | cons c cs =>
      rw [hcs] at hdigits hzero hextend
      have hc : c.isDigit = true := hdigits c (by simp)
      have hne : c ≠ '0' := fun h => hzero (by rw [h, List.head?_cons])
      simp only [List.head?_cons, hne, ↓reduceIte, hc]
      rw [bind_apply (digits_apply hdigits hrest.isDigit), hextend]
      exact afterWhole_apply n hrest

lemma number_apply {n : Nat} (hn : n < wordBound) {rest : List Char} (hrest : Behind rest) :
    number (Nat.toDigits 10 n ++ rest) = .ok (.natural n, rest) := by
  have h := unsigned_apply hn hrest
  cases hcs : Nat.toDigits 10 n with
  | nil => exact absurd hcs Nat.toDigits_ne_nil
  | cons c cs =>
    have hc : c.isDigit = true := isDigit_of_mem_toDigits (hcs ▸ List.mem_cons_self)
    have hsign : (some c == some '-') = false := by
      rw [beq_eq_false_iff_ne]
      rintro ⟨⟩
      cases hc
    rw [hcs] at h
    rw [List.cons_append] at h ⊢
    rw [number, bind_apply (peek_cons (isBlank_of_isDigit hc) _)]
    simp only [hc, or_true, ↓reduceIte]
    rw [numeral, bind_apply (next_apply _), List.head?_cons, hsign]
    exact h

end Reader

lemma reads_natural {n bound : Nat} (hn : n < bound) (hbound : bound ≤ wordBound) :
    Reads (Reader.natural bound) (.natural n) n := by
  intro rest hrest
  rw [Value.chars, Reader.natural,
    Reader.bind_apply (Reader.number_apply (hn.trans_le hbound) hrest)]
  simp only [hn, ↓reduceIte]
  rfl

/-! ### What may be absent -/

/-- The text starts as that of a value other than `null` does. -/
def Value.Starts (v : Value) : Prop :=
  ∃ c cs, v.chars = c :: cs ∧ Reader.isBlank c = false ∧ c ≠ 'n' ∧ c ≠ ']'

lemma starts_natural (n : Nat) : (Value.natural n).Starts := by
  cases hcs : Nat.toDigits 10 n with
  | nil => exact absurd hcs Nat.toDigits_ne_nil
  | cons c cs =>
    have hc : c.isDigit = true := isDigit_of_mem_toDigits (hcs ▸ List.mem_cons_self)
    refine ⟨c, cs, by rw [Value.chars, hcs], isBlank_of_isDigit hc, ?_, ?_⟩ <;>
      (rintro rfl; cases hc)

lemma starts_array (vs : List Value) : (Value.array vs).Starts :=
  ⟨'[', _, by rw [Value.chars], rfl, by decide, by decide⟩

lemma reads_null (r : Reader α) : Reads (Reader.optional r) .null none := by
  intro rest _
  have hnull : (Value.null).chars ++ rest = 'n' :: ("ull".toList ++ rest) := by
    rw [Value.chars]
    rfl
  rw [hnull, Reader.optional, Reader.bind_apply (Reader.peek_cons (by rfl) _)]
  show (Reader.literal "null".toList >>= _) ("null".toList ++ rest) = _
  rw [Reader.bind_apply (Reader.literal_append "null".toList rest)]
  rfl

lemma reads_some {r : Reader α} {v : Value} {a : α} (h : Reads r v a) (hv : v.Starts) :
    Reads (Reader.optional r) v (some a) := by
  intro rest hrest
  obtain ⟨c, cs, hcs, hblank, hn, -⟩ := hv
  have hr := h rest hrest
  rw [hcs, List.cons_append] at hr ⊢
  have hnull : (some c == some 'n') = false := by simp [hn]
  rw [Reader.optional, Reader.bind_apply (Reader.peek_cons hblank _), hnull]
  exact Reader.map_apply some hr

lemma reads_ofOption {r : Reader α} {f : α → Value} {o : Option α}
    (h : ∀ a ∈ o, Reads r (f a) a) (hf : ∀ a, (f a).Starts) :
    Reads (Reader.optional r) (.ofOption f o) o := by
  cases o with
  | none => exact reads_null r
  | some a => exact reads_some (h a rfl) (hf a)

/-! ### Arrays -/

namespace Value

/-- What follows an element. -/
def moreElements : List Value → List Char
  | [] => []
  | v :: vs => ',' :: elementChars (v :: vs)

lemma elementChars_cons (v : Value) (vs : List Value) :
    elementChars (v :: vs) = v.chars ++ moreElements vs := by
  cases vs with
  | nil => rw [elementChars, moreElements, List.append_nil]
  | cons w vs => rw [elementChars, moreElements]; exact List.cons_ne_nil _ _

lemma behind_moreElements (vs : List Value) (rest : List Char) :
    Behind (moreElements vs ++ ']' :: rest) := by
  cases vs <;> exact behind_cons (by decide) _

end Value

namespace Reader

lemma endArray_apply (rest : List Char) : endArray (']' :: rest) = .ok ((), rest) := by
  rw [endArray, bind_apply (peek_cons (by rfl) _)]
  rfl

lemma hasElement_apply {v : Value} (hv : v.Starts) (first : Bool) (rest : List Char) :
    hasElement first ((if first then v.chars else ',' :: v.chars) ++ rest) =
      .ok (true, v.chars ++ rest) := by
  obtain ⟨c, cs, hcs, hblank, -, hc⟩ := hv
  rw [hcs]
  cases first with
  | true =>
    show hasElement true (c :: (cs ++ rest)) = _
    rw [hasElement, bind_apply (peek_cons hblank _)]
    simp only [hc, ↓reduceIte]
    rfl
  | false =>
    show hasElement false (',' :: c :: (cs ++ rest)) = _
    rw [hasElement, bind_apply (peek_cons (by rfl) _)]
    show (advance >>= _) _ = _
    rw [bind_apply (advance_cons ',' _), bind_apply (peek_cons hblank _)]
    simp only [hc, ↓reduceIte]
    rfl

lemma elements_apply {r : Reader α} {vs : List Value} {as : List α}
    (h : List.Forall₂ (Reads r) vs as) (hvs : ∀ v ∈ vs, v.Starts) (first : Bool)
    (rest : List Char) :
    elements r as.length first
      ((if first then Value.elementChars vs else Value.moreElements vs) ++ ']' :: rest) =
        .ok (⟨as, rfl⟩, rest) := by
  induction h generalizing first with
  | nil =>
    have hnil : (if first then Value.elementChars [] else Value.moreElements []) = [] := by
      cases first <;> rfl
    rw [hnil, List.nil_append]
    show (endArray >>= _) _ = _
    rw [bind_apply (endArray_apply rest)]
    rfl
  | @cons v a vs as hv _ ih =>
    have htext : (if first then Value.elementChars (v :: vs) else Value.moreElements (v :: vs)) =
        (if first then v.chars else ',' :: v.chars) ++ Value.moreElements vs := by
      rw [Value.moreElements, Value.elementChars_cons]
      cases first <;> rfl
    rw [htext, List.append_assoc]
    show (hasElement first >>= _) _ = _
    rw [bind_apply (hasElement_apply (hvs v (by simp)) first _)]
    show (r >>= _) _ = _
    rw [bind_apply (hv _ (Value.behind_moreElements vs rest))]
    have hmore := ih (fun w hw => hvs w (by simp [hw])) false
    rw [if_neg Bool.false_ne_true] at hmore
    rw [bind_apply hmore]
    rfl

end Reader

lemma reads_array {r : Reader α} {vs : List Value} {as : List α} {n : Nat}
    (h : List.Forall₂ (Reads r) vs as) (hvs : ∀ v ∈ vs, v.Starts) (hn : as.length = n) :
    Reads (Reader.array n r) (.array vs) ⟨as, hn⟩ := by
  intro rest _
  subst hn
  have htext : (Value.array vs).chars ++ rest = '[' :: (Value.elementChars vs ++ ']' :: rest) := by
    rw [Value.chars]
    simp
  rw [htext, Reader.array, Reader.bind_apply (Reader.peek_cons (by rfl) _)]
  exact Reader.elements_apply h hvs true rest

/-! ### Records -/

namespace Value

/-- What follows a member. -/
def moreMembers : List (String × Value) → List Char
  | [] => []
  | m :: ms => ',' :: memberChars (m :: ms)

lemma memberChars_cons (name : String) (v : Value) (ms : List (String × Value)) :
    memberChars ((name, v) :: ms) = quote name.toList ++ ':' :: (v.chars ++ moreMembers ms) := by
  cases ms with
  | nil => rw [memberChars, moreMembers, List.append_nil]
  | cons m ms => rw [memberChars, moreMembers]; exact List.cons_ne_nil _ _

lemma behind_moreMembers (ms : List (String × Value)) (rest : List Char) :
    Behind (moreMembers ms ++ '}' :: rest) := by
  cases ms <;> exact behind_cons (by decide) _

lemma length_le_length_memberChars (ms : List (String × Value)) :
    ms.length ≤ (memberChars ms).length := by
  induction ms with
  | nil => exact Nat.zero_le _
  | cons m ms ih =>
    have hmore : (memberChars ms).length ≤ (moreMembers ms).length := by
      cases ms <;> simp [memberChars, moreMembers]
    rw [memberChars_cons]
    simp only [quote, List.length_append, List.length_cons]
    omega

end Value

/-- Members that fill the fields of a record from the state `s` to the state `t`: each one has a
field of its name that is still empty. -/
inductive Fills (fields : List (Reader.Field σ)) : List (String × Value) → σ → σ → Prop
  | nil (s : σ) : Fills fields [] s s
  | cons {name : String} {v : Value} {ms : List (String × Value)} {f : Reader.Field σ} {s t u : σ}
      (hf : fields.find? (·.name == name) = some f) (hs : f.isSet s = false)
      (hread : Reads (f.read s) v t) (h : Fills fields ms t u) : Fills fields ((name, v) :: ms) s u

namespace Reader

lemma hasMember_apply (name : String) (first : Bool) (rest : List Char) :
    hasMember first ((if first then [] else [',']) ++ (quote name.toList ++ rest)) =
      .ok (true, name.toList.flatMap escape ++ '"' :: rest) := by
  rw [quote_append]
  cases first <;> rfl

lemma hasMember_end (first : Bool) (rest : List Char) :
    hasMember first ('}' :: rest) = .ok (false, rest) := by
  cases first <;> rfl

lemma colon_apply (rest : List Char) : colon (':' :: rest) = .ok ((), rest) := rfl

/-- The next member is read into its field, and then the members behind it. -/
lemma members_cons {fields : List (Field σ)} {name : String} {v : Value}
    {ms : List (String × Value)} {f : Field σ} {s : σ}
    (hf : fields.find? (·.name == name) = some f) (hs : f.isSet s = false) (fuel : Nat)
    (first : Bool) (rest : List Char) :
    members fields (fuel + 1) first s
      ((if first then Value.memberChars ((name, v) :: ms)
        else Value.moreMembers ((name, v) :: ms)) ++ '}' :: rest) =
      (f.read s >>= members fields fuel false)
        (v.chars ++ (Value.moreMembers ms ++ '}' :: rest)) := by
  have htext : (if first then Value.memberChars ((name, v) :: ms)
        else Value.moreMembers ((name, v) :: ms)) ++ '}' :: rest =
      (if first then [] else [',']) ++ (quote name.toList ++
        ':' :: (v.chars ++ (Value.moreMembers ms ++ '}' :: rest))) := by
    rw [Value.moreMembers, Value.memberChars_cons]
    cases first <;> simp
  have hmember : ∀ text, member fields name s (':' :: text) = f.read s text := by
    intro text
    simp only [member, hf, hs]
    show (colon >>= _) _ = _
    rw [bind_apply (colon_apply _)]
  rw [htext, members, bind_apply (hasMember_apply name first _)]
  show (quoted >>= _) _ = _
  rw [bind_apply (quoted_apply name _)]
  show (member fields name s _ >>= _) = (f.read s _ >>= _)
  rw [hmember]

lemma members_apply {fields : List (Field σ)} {ms : List (String × Value)} {s t : σ}
    (h : Fills fields ms s t) {fuel : Nat} (hfuel : ms.length < fuel) (first : Bool)
    (rest : List Char) :
    members fields fuel first s
      ((if first then Value.memberChars ms else Value.moreMembers ms) ++ '}' :: rest) =
        .ok (t, rest) := by
  induction h generalizing fuel first with
  | nil s =>
    obtain ⟨fuel, rfl⟩ := Nat.exists_eq_add_one.2 hfuel
    have hnil : (if first then Value.memberChars [] else Value.moreMembers []) = [] := by
      cases first <;> rfl
    rw [hnil, List.nil_append, members, bind_apply (hasMember_end first rest)]
    rfl
  | @cons name v ms f s t u hf hs hread _ ih =>
    obtain ⟨fuel, rfl⟩ := Nat.exists_eq_add_one.2 (Nat.zero_lt_of_lt hfuel)
    rw [members_cons hf hs, bind_apply (hread _ (Value.behind_moreMembers ms rest))]
    exact ih (by simpa using hfuel) false

/-- A record is read from an object by its members, and there is fuel for all of them. -/
lemma record_object (fields : List (Field σ)) (init : σ) (finish : σ → Option α)
    (ms : List (String × Value)) (rest : List Char) :
    ∃ fuel, ms.length < fuel ∧ record fields init finish ((Value.object ms).chars ++ rest) =
      (members fields fuel true init >>= fun s => match finish s with
        | some a => pure a
        | none => fail .mismatch) (Value.memberChars ms ++ '}' :: rest) := by
  have htext : (Value.object ms).chars ++ rest = '{' :: (Value.memberChars ms ++ '}' :: rest) := by
    rw [Value.chars]
    simp
  have hfuel : ms.length < (Value.memberChars ms ++ '}' :: rest).length + 1 := by
    have := Value.length_le_length_memberChars ms
    rw [List.length_append]
    omega
  refine ⟨_, hfuel, ?_⟩
  rw [htext, record, bind_apply (peek_cons (by rfl) _)]
  show (advance >>= _) _ = _
  rw [bind_apply (advance_cons '{' _)]
  show ((get : Reader (List Char)) >>= _) _ = _
  exact bind_apply (get_apply _)

end Reader

/-- An object whose members fill a record is read as what they amount to. -/
lemma reads_record {fields : List (Reader.Field σ)} {ms : List (String × Value)} {init s : σ}
    {finish : σ → Option α} {a : α} (h : Fills fields ms init s) (ha : finish s = some a) :
    Reads (Reader.record fields init finish) (.object ms) a := by
  intro rest _
  obtain ⟨fuel, hfuel, hrecord⟩ := Reader.record_object fields init finish ms rest
  have hmembers := Reader.members_apply h hfuel true rest
  rw [if_pos rfl] at hmembers
  rw [hrecord, Reader.bind_apply hmembers]
  simp only [ha]
  rfl

end Groupwise.Json
