import Groupwise.Proofs.Notation
import Groupwise.Proofs.Reading
import Groupwise.Proofs.Success

/-!
# Numbers are read the same inside a text

A number ends where the text goes on with something that belongs to no number, or where the text
ends. So a reader that makes a float of a text alone makes the same float of it inside an array or
an object (`Json.Restored.reads`). Each reader of a number is shown to go on like this
(`Json.Reader.Extends`), from the last one that is asked to the first.
-/

namespace Groupwise.Json

variable {α β : Type}

namespace Reader

/-! ### Readers that never succeed -/

/-- The reader makes nothing of any text. -/
def Hopeless (r : Reader α) : Prop := ∀ s p, r s ≠ .ok p

lemma hopeless_fail (fault : Fault) : Hopeless (fail fault : Reader α) := by
  intro s p h
  cases h

lemma hopeless_bind (r : Reader α) {f : α → Reader β} (hf : ∀ a, Hopeless (f a)) :
    Hopeless (r >>= f) := by
  intro s p h
  obtain ⟨q, -, hp⟩ := exists_of_bind_eq_ok (x := r s) (f := fun q => f q.1 q.2) h
  exact hf q.1 q.2 p hp

lemma hopeless_wrongType : Hopeless (wrongType : Reader α) := by
  apply hopeless_bind
  intro o
  cases o with
  | none => exact hopeless_fail _
  | some c =>
    have hmismatch : ∀ u : Unit, Hopeless (fail .mismatch : Reader α) := fun _ => hopeless_fail _
    dsimp only
    split_ifs
    · exact hopeless_bind _ hmismatch
    · exact hopeless_bind _ hmismatch
    · exact hopeless_bind _ hmismatch
    · exact hopeless_bind _ fun _ => hopeless_bind _ hmismatch
    · exact hopeless_bind _ hmismatch
    · exact hopeless_bind _ hmismatch
    · exact hopeless_fail _

/-! ### Readers of numbers -/

/-- The digits of an exponent, behind its sign. -/
def afterSign (negative down : Bool) (n : Nat) (e : Int) : Reader Numeral := do
  match ← next with
  | none => fail .ended
  | some c =>
    if !c.isDigit then fail .malformed
    else
      let size := (← digits).foldl (fun k c => 10 * k + (c.toNat - '0'.toNat)) 0
      if exponentBound ≤ size then
        if n ≠ 0 ∧ !down then fail .malformed
        else return .float (if negative then -0.0 else 0.0)
      else scaled negative n (if down then e - size else e + size)

lemma exponent_eq (negative : Bool) (n : Nat) (e : Int) :
    exponent negative n e = next >>= fun o => next >>= fun o' =>
      if o == some '-' || o' == some '+' then
        advance >>= fun _ => afterSign negative (o == some '-') n e
      else afterSign negative (o == some '-') n e := rfl

/-- What the reader takes off the front of the text, it also takes off if something is behind the
text. -/
def Extends (r : Reader α) (s : List Char) : Prop :=
  ∀ a t, r s = .ok (a, t) → t <:+ s ∧ ∀ rest, Behind rest → r (s ++ rest) = .ok (a, t ++ rest)

namespace Extends

variable {r : Reader α} {s : List Char} {c : Char}

lemma of_error {fault : Fault} (h : r s = .error fault) : Extends r s := by
  intro a t ha
  cases h.symm.trans ha

lemma of_pure (a : α) : Extends (pure a) s := by
  rintro a t ⟨⟩
  exact ⟨List.suffix_rfl, fun _ _ => rfl⟩

lemma map (h : Extends r s) (f : α → β) : Extends (f <$> r) s := by
  intro b t hb
  obtain ⟨p, hp, hpair⟩ := exists_of_bind_eq_ok (x := r s) (f := fun p => .ok (f p.1, p.2)) hb
  obtain ⟨rfl, rfl⟩ := Prod.mk.inj (Except.ok.inj hpair)
  obtain ⟨hsuffix, hrest⟩ := h p.1 p.2 hp
  exact ⟨hsuffix, fun rest hbehind => map_apply f (hrest rest hbehind)⟩

lemma advance {f : Unit → Reader β} (h : Extends (f ()) s) :
    Extends (Reader.advance >>= f) (c :: s) := by
  intro b t hb
  obtain ⟨hsuffix, hrest⟩ := h b t hb
  exact ⟨hsuffix.trans (List.suffix_cons c s), hrest⟩

lemma next {f : Option Char → Reader β} (h : Extends (f (some c)) (c :: s)) :
    Extends (Reader.next >>= f) (c :: s) := h

/-- At the end of the text a reader goes on as it does before what may be behind a value. -/
lemma next_nil {f : Option Char → Reader β} (h : Extends (f none) [])
    (hf : ∀ c, c = ',' ∨ c = ']' ∨ c = '}' → f (some c) = f none) :
    Extends (Reader.next >>= f) [] := by
  intro b t hb
  obtain ⟨hsuffix, hrest⟩ := h b t hb
  refine ⟨hsuffix, fun rest hbehind => ?_⟩
  have hsame : f rest.head? = f none := by
    cases hhead : rest.head? with
    | none => rfl
    | some c => exact hf c (hbehind c hhead)
  show f rest.head? rest = _
  rw [hsame]
  exact hrest rest hbehind

lemma digits {f : List Char → Reader β}
    (h : Extends (f (s.takeWhile Char.isDigit)) (s.dropWhile Char.isDigit)) :
    Extends (Reader.digits >>= f) s := by
  intro b t hb
  obtain ⟨hsuffix, hrest⟩ := h b t hb
  refine ⟨hsuffix.trans (List.dropWhile_suffix _), fun rest hbehind => ?_⟩
  have hsplit : s ++ rest = s.takeWhile Char.isDigit ++ (s.dropWhile Char.isDigit ++ rest) := by
    rw [← List.append_assoc, List.takeWhile_append_dropWhile]
  have hstop : ∀ c ∈ (s.dropWhile Char.isDigit ++ rest).head?, c.isDigit = false := by
    cases hdrop : s.dropWhile Char.isDigit with
    | nil => exact hbehind.isDigit
    | cons d ds =>
      rintro c ⟨⟩
      have hd := List.head?_dropWhile_not Char.isDigit s
      simpa [hdrop] using hd
  have hdigits : ∀ c ∈ s.takeWhile Char.isDigit, c.isDigit = true := fun c hc =>
    List.mem_takeWhile_imp hc
  rw [hsplit, bind_apply (digits_apply hdigits hstop)]
  exact hrest rest hbehind

lemma scaled (negative : Bool) (n : Nat) (e : Int) : Extends (Reader.scaled negative n e) s := by
  rw [Reader.scaled]
  split
  · exact of_pure _
  · exact of_error rfl

lemma afterSign (negative down : Bool) (n : Nat) (e : Int) :
    Extends (Reader.afterSign negative down n e) s := by
  cases s with
  | nil => exact of_error rfl
  | cons c s =>
    apply next
    dsimp only
    split
    · exact of_error rfl
    · apply digits
      split
      · split
        · exact of_error rfl
        · exact of_pure _
      · exact scaled _ _ _

lemma exponent (negative : Bool) (n : Nat) (e : Int) :
    Extends (Reader.exponent negative n e) s := by
  rw [exponent_eq]
  cases s with
  | nil => exact of_error rfl
  | cons c s =>
    apply next
    apply next
    split_ifs
    · exact advance (afterSign _ _ _ _)
    · exact afterSign _ _ _ _

lemma afterFraction (negative : Bool) (n : Nat) (e : Int) :
    Extends (Reader.afterFraction negative n e) s := by
  cases s with
  | nil =>
    apply next_nil (scaled negative n e)
    rintro c (rfl | rfl | rfl) <;> rfl
  | cons c s =>
    apply next
    split
    · exact advance (exponent _ _ _)
    · exact advance (exponent _ _ _)
    · exact scaled _ _ _

lemma fraction (negative : Bool) (n : Nat) (e : Int) :
    Extends (Reader.fraction negative n e) s := by
  cases s with
  | nil => exact of_error rfl
  | cons c s =>
    apply next
    dsimp only
    split
    · exact of_error rfl
    · apply digits
      exact afterFraction _ _ _

lemma afterWhole (negative : Bool) (n left : Nat) :
    Extends (Reader.afterWhole negative n left) s := by
  have hwhole : ∀ s, Extends (if left ≠ 0 then Reader.scaled negative n left
      else if !negative then return .natural n
      else if n = 0 ∨ negativeBound < n then return .float (-n.toFloat)
      else return .negative n) s := by
    intro s
    split_ifs
    · exact scaled _ _ _
    all_goals exact of_pure _
  cases s with
  | nil =>
    apply next_nil (hwhole [])
    rintro c (rfl | rfl | rfl) <;> rfl
  | cons c s =>
    apply next
    split
    · exact advance (fraction _ _ _)
    · exact advance (exponent _ _ _)
    · exact advance (exponent _ _ _)
    · exact hwhole (c :: s)

lemma unsigned (negative : Bool) : Extends (Reader.unsigned negative) s := by
  cases s with
  | nil => exact of_error rfl
  | cons c s =>
    apply next
    dsimp only
    split
    · apply advance
      cases s with
      | nil =>
        apply next_nil (afterWhole negative 0 0)
        rintro c (rfl | rfl | rfl) <;> rfl
      | cons d s =>
        apply next
        dsimp only
        split
        · exact of_error rfl
        · exact afterWhole _ _ _
    · split
      · apply digits
        exact afterWhole _ _ _
      · exact of_error rfl

lemma numeral : Extends Reader.numeral s := by
  cases s with
  | nil => exact of_error rfl
  | cons c s =>
    apply next
    split_ifs
    · exact advance (unsigned _)
    · exact unsigned _

lemma of_hopeless (h : Hopeless r) : Extends r s := by
  intro a t ha
  exact absurd ha (h s (a, t))

lemma peek {f : Option Char → Reader β} (hnone : Hopeless (f none))
    (h : ∀ c, Extends (f (some c)) (s.dropWhile isBlank)) : Extends (Reader.peek >>= f) s := by
  intro b t hb
  change f (s.dropWhile isBlank).head? (s.dropWhile isBlank) = _ at hb
  cases hdrop : s.dropWhile isBlank with
  | nil =>
    rw [hdrop] at hb
    exact absurd hb (hnone [] (b, t))
  | cons d ds =>
    rw [hdrop] at hb
    obtain ⟨hsuffix, hrest⟩ := h d b t (by rwa [hdrop])
    refine ⟨hsuffix.trans (List.dropWhile_suffix _), fun rest hbehind => ?_⟩
    have hmore : (s ++ rest).dropWhile isBlank = d :: ds ++ rest := by
      rw [List.dropWhile_append, hdrop]
      rfl
    have hstep := hrest rest hbehind
    rw [hdrop] at hstep
    show f ((s ++ rest).dropWhile isBlank).head? ((s ++ rest).dropWhile isBlank) = _
    rw [hmore]
    exact hstep

lemma number : Extends Reader.number s := by
  apply peek (hopeless_fail _)
  intro c
  dsimp only
  split
  · exact numeral
  · exact of_hopeless hopeless_wrongType

lemma float : Extends Reader.float s := number.map Numeral.toFloat

end Extends

end Reader

/-! ### Floats -/

/-- The text of the float is read as the float. -/
def Restored (x : Float) : Prop := Reader.float.run (Value.float x).render = .ok x

instance : DecidablePred Restored := fun x =>
  inferInstanceAs (Decidable (Reader.float.run (Value.float x).render = .ok x))

lemma isBlank_of_numeric {c : Char} (hc : Decimal.Numeric c) : Reader.isBlank c = false := by
  rcases hc with hc | rfl | rfl | rfl | rfl
  · exact isBlank_of_isDigit hc
  all_goals rfl

lemma isBlank_of_mem_chars_float {x : Float} {c : Char} (hc : c ∈ (Value.float x).chars) :
    Reader.isBlank c = false := by
  have hnull : ∀ c ∈ "null".toList, Reader.isBlank c = false := by
    show ∀ c ∈ ['n', 'u', 'l', 'l'], Reader.isBlank c = false
    simp [Reader.isBlank]
  rw [Value.chars] at hc
  rcases Decimal.Style.numeric_of_mem_render hc with hc | hc | hc | hc
  · exact isBlank_of_numeric hc
  all_goals exact hnull c hc

/-- What is read of the text alone is read of it inside a text. -/
lemma Restored.reads {x : Float} (h : Restored x) : Reads Reader.float (.float x) x := by
  rw [Restored, Reader.run, Value.render, String.toList_ofList] at h
  split at h
  · cases h
  next a t hread =>
    split_ifs at h with hblank
    obtain rfl : a = x := Except.ok.inj h
    obtain ⟨hsuffix, hrest⟩ := Reader.Extends.float a t hread
    have hnil : t = [] := by
      rw [List.eq_nil_iff_forall_not_mem]
      intro c hc
      have hblank' := List.all_eq_true.1 hblank c hc
      rw [isBlank_of_mem_chars_float (hsuffix.mem hc)] at hblank'
      cases hblank'
    subst hnil
    exact hrest

end Groupwise.Json
