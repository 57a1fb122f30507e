import Groupwise.Proofs.Literals
import Groupwise.Proofs.Notation
import Groupwise.Proofs.Reading

/-!
# JSON texts say where they end

The text of a value can be told from what follows it in an array or an object
(`Json.Value.delimited`): strings, arrays and objects close what they have opened, and none of the
other values has a character that could stand behind a value. So the text of an array
determines the texts of its elements, and that of an object its names and the texts of its members.

Names and numbers are determined by their texts. A float is if it is finite, since all other floats
are written as `null` (`Json.Value.sameText_float`).
-/

namespace Groupwise

namespace Json

/-- Both floats are the same, or neither of them is a finite number. -/
def Alike (x y : Float) : Prop := x = y ∨ x.isFinite = false ∧ y.isFinite = false

namespace Value

/-- The values are written in the same way. -/
def SameText (v w : Value) : Prop := v.chars = w.chars

/-! ### How a text starts -/

/-- The character opens a text that has an end of its own. -/
def isOpening (c : Char) : Bool := c == '"' || c == '[' || c == '{'

/-- The character neither opens a text nor follows one. -/
def Bare (c : Char) : Prop := isOpening c = false ∧ c ≠ ',' ∧ c ≠ ']' ∧ c ≠ '}'

instance (c : Char) : Decidable (Bare c) :=
  inferInstanceAs (Decidable (isOpening c = false ∧ c ≠ ',' ∧ c ≠ ']' ∧ c ≠ '}'))

lemma bare_of_isDigit {c : Char} (hc : c.isDigit = true) : Bare c := by
  refine ⟨?_, ?_, ?_, ?_⟩
  · by_contra hopening
    simp only [isOpening, Bool.not_eq_false, Bool.or_eq_true, beq_iff_eq] at hopening
    rcases hopening with (rfl | rfl) | rfl <;> cases hc
  all_goals
    rintro rfl
    cases hc

/-- What opens the text of a value, if anything does. -/
def opening : Value → Option Char
  | string _ => some '"'
  | array _ => some '['
  | object _ => some '{'
  | _ => none

lemma mem_chars_of_opening {v : Value} (hv : v.opening = none) {c : Char} (hc : c ∈ v.chars) :
    Decimal.Numeric c ∨ c ∈ ['n', 'u', 'l', 'l'] := by
  cases v with
  | null =>
    rw [chars] at hc
    exact .inr hc
  | natural n =>
    rw [chars] at hc
    exact .inl (Decimal.numeric_of_mem_toDigits hc)
  | integer i =>
    rw [chars, integerText] at hc
    split_ifs at hc
    · rcases List.mem_cons.1 hc with rfl | hc
      · exact .inl (.inr (.inr (.inr (.inr rfl))))
      · exact .inl (Decimal.numeric_of_mem_toDigits hc)
    · exact .inl (Decimal.numeric_of_mem_toDigits hc)
  | float x =>
    rw [chars] at hc
    rcases Decimal.Style.numeric_of_mem_render hc with hc | hc | hc | hc
    · exact .inl hc
    all_goals exact .inr hc
  | string s => cases hv
  | array vs => cases hv
  | object ms => cases hv

lemma bare_of_mem_chars {v : Value} (hv : v.opening = none) {c : Char} (hc : c ∈ v.chars) :
    Bare c := by
  rcases mem_chars_of_opening hv hc with (hc | rfl | rfl | rfl | rfl) | hc
  · exact bare_of_isDigit hc
  any_goals decide
  simp only [List.mem_cons, List.not_mem_nil, or_false] at hc
  rcases hc with rfl | rfl | rfl | rfl <;> decide

/-- What opens the text of a value can be read off any text that goes on behind it. -/
lemma opening_eq (v : Value) {rest : List Char} (hrest : Behind rest) :
    v.opening = (v.chars ++ rest).head?.filter isOpening := by
  have hbare : v.opening = none → v.opening = (v.chars ++ rest).head?.filter isOpening := by
    intro hv
    rw [hv, eq_comm, Option.filter_eq_none_iff]
    intro c hc
    rw [Bool.not_eq_true]
    cases hcs : v.chars with
    | nil =>
      rw [hcs] at hc
      rcases hrest c hc with rfl | rfl | rfl <;> rfl
    | cons d ds =>
      rw [hcs] at hc
      obtain rfl : d = c := Option.some.inj hc
      exact (bare_of_mem_chars hv (hcs ▸ List.mem_cons_self)).1
  cases v with
  | string s => rw [chars]; rfl
  | array vs => rw [chars]; rfl
  | object ms => rw [chars]; rfl
  | _ => exact hbare rfl

/-! ### Names and numbers -/

lemma quote_append_inj {s t : String} {rest rest' : List Char}
    (h : quote s.toList ++ rest = quote t.toList ++ rest') : s = t ∧ rest = rest' := by
  rw [Reader.quote_append, Reader.quote_append, List.cons_inj_right] at h
  have hunquote := congrArg unquote h
  rw [unquote_escaped, unquote_escaped] at hunquote
  obtain ⟨hst, rfl⟩ := Prod.mk.inj (Except.ok.inj hunquote)
  exact ⟨String.toList_inj.1 hst, rfl⟩

lemma sameText_string {s t : String} : SameText (string s) (string t) ↔ s = t := by
  rw [SameText, chars, chars]
  constructor
  · intro h
    exact (quote_append_inj (congrArg (· ++ []) h)).1
  · rintro rfl
    rfl

lemma sameText_natural {m n : Nat} : SameText (natural m) (natural n) ↔ m = n := by
  rw [SameText, chars, chars]
  constructor
  · intro h
    have hvalue := congrArg (Nat.ofDigitChars 10 · 0) h
    simpa only [Nat.ofDigitChars_ten_toDigits] using hvalue
  · rintro rfl
    rfl

/-- What is no finite number is written as `null`. -/
lemma render_of_not_isFinite {x : Float} (hx : x.isFinite = false) :
    Decimal.json.render x = "null" := by
  have hfinite : x.toModel.unpack.isFinite = false := hx
  have hnumber : x.isNaN = x.toModel.unpack.isNaN := rfl
  have hinf : x.isInf = x.toModel.unpack.isInf := rfl
  rw [Decimal.Style.render, hnumber, hinf]
  cases hunpack : x.toModel.unpack with
  | notANumber => rfl
  | infinity _ =>
    simp only [Float.Model.UnpackedFloat.isNaN, Float.Model.UnpackedFloat.isInf]
    exact ite_self _
  | zero _ | finite _ _ _ _ =>
    rw [hunpack] at hfinite
    cases hfinite

lemma render_ne_of_isFinite {x : Float} (hx : x.isFinite = true) {text : String}
    (htext : (Literal.float text.toList).toOption = none) : Decimal.json.render x ≠ text := by
  rintro rfl
  rw [Literal.float_render Decimal.json hx] at htext
  cases htext

lemma chars_float_ne_nil (x : Float) : (float x).chars ≠ [] := by
  rw [chars]
  cases hx : x.isFinite with
  | false =>
    rw [render_of_not_isFinite hx]
    decide
  | true =>
    intro hnil
    have hne : Decimal.json.render x ≠ "" := render_ne_of_isFinite hx rfl
    exact hne (String.toList_inj.1 hnil)

/-- JSON tells floats apart as far as they are finite numbers. -/
lemma sameText_float {x y : Float} : SameText (float x) (float y) ↔ Alike x y := by
  rw [SameText, chars, chars, String.toList_inj]
  constructor
  · intro h
    cases hx : x.isFinite with
    | true =>
      cases hy : y.isFinite with
      | true =>
        have hxy : Literal.float (Decimal.json.render x).toList = .ok y := by
          rw [h, Literal.float_render Decimal.json hy]
        rw [Literal.float_render Decimal.json hx] at hxy
        exact .inl (Except.ok.inj hxy)
      | false =>
        rw [render_of_not_isFinite hy] at h
        exact absurd h (render_ne_of_isFinite hx rfl)
    | false =>
      cases hy : y.isFinite with
      | true =>
        rw [render_of_not_isFinite hx] at h
        exact absurd h.symm (render_ne_of_isFinite hy rfl)
      | false => exact .inr ⟨hx, hy⟩
  · rintro (rfl | ⟨hx, hy⟩)
    · rfl
    · rw [render_of_not_isFinite hx, render_of_not_isFinite hy]

/-! ### Where a text ends -/

lemma chars_ne_nil (v : Value) : v.chars ≠ [] := by
  cases v with
  | float x => exact chars_float_ne_nil x
  | natural n =>
    rw [chars]
    exact Nat.toDigits_ne_nil
  | integer i =>
    rw [chars, integerText]
    split_ifs
    · exact List.cons_ne_nil _ _
    · exact Nat.toDigits_ne_nil
  | _ =>
    rw [chars]
    exact List.cons_ne_nil _ _

/-- A value is not mistaken for the end of an array. -/
lemma chars_append_ne_end (v : Value) (rest rest' : List Char) :
    v.chars ++ rest ≠ ']' :: rest' := by
  intro h
  obtain ⟨c, cs, hcs⟩ := List.exists_cons_of_ne_nil v.chars_ne_nil
  obtain rfl : c = ']' := by
    rw [hcs] at h
    exact List.head_eq_of_cons_eq h
  cases hv : v.opening with
  | none =>
    have hbare : Bare ']' := bare_of_mem_chars hv (hcs ▸ List.mem_cons_self)
    exact absurd hbare (by decide)
  | some d => cases v <;> simp [chars, opening, quote] at hcs hv

/-- Texts without an opening character end where something else begins. -/
lemma chars_append_inj_of_opening {v w : Value} {rest rest' : List Char} (hv : v.opening = none)
    (hw : w.opening = none) (hrest : Behind rest) (hrest' : Behind rest')
    (h : v.chars ++ rest = w.chars ++ rest') : SameText v w ∧ rest = rest' := by
  have hbare : ∀ {v : Value}, v.opening = none → ∀ c ∈ v.chars, decide (Bare c) = true :=
    fun hv c hc => decide_eq_true (bare_of_mem_chars hv hc)
  have hstop : ∀ {rest : List Char}, Behind rest → ∀ c ∈ rest.head?, decide (Bare c) = false := by
    intro rest hrest c hc
    rcases hrest c hc with rfl | rfl | rfl <;> decide
  have htake := congrArg (List.takeWhile fun c => decide (Bare c)) h
  rw [takeWhile_append_stop (hbare hv) (hstop hrest),
    takeWhile_append_stop (hbare hw) (hstop hrest')] at htake
  rw [htake] at h
  exact ⟨htake, List.append_cancel_left h⟩

/-- Behind their opening characters, arrays go on alike. -/
lemma moreElements_eq_of_array {vs ws : List Value} {rest rest' : List Char}
    (h : (array vs).chars ++ rest = (array ws).chars ++ rest') :
    moreElements vs ++ ']' :: rest = moreElements ws ++ ']' :: rest' := by
  have helements : elementChars vs ++ ']' :: rest = elementChars ws ++ ']' :: rest' := by
    simpa [chars] using h
  cases vs with
  | nil =>
    cases ws with
    | nil => exact helements
    | cons w ws =>
      rw [elementChars_cons, List.append_assoc] at helements
      exact absurd helements.symm (w.chars_append_ne_end _ _)
  | cons v vs =>
    cases ws with
    | nil =>
      rw [elementChars_cons, List.append_assoc] at helements
      exact absurd helements (v.chars_append_ne_end _ _)
    | cons w ws => exact congrArg (List.cons ',') helements

lemma moreMembers_eq_of_object {ms ns : List (String × Value)} {rest rest' : List Char}
    (h : (object ms).chars ++ rest = (object ns).chars ++ rest') :
    moreMembers ms ++ '}' :: rest = moreMembers ns ++ '}' :: rest' := by
  have hmembers : memberChars ms ++ '}' :: rest = memberChars ns ++ '}' :: rest' := by
    simpa [chars] using h
  cases ms with
  | nil =>
    cases ns with
    | nil => exact hmembers
    | cons n ns =>
      rw [memberChars_cons, List.append_assoc, Reader.quote_append] at hmembers
      cases hmembers
  | cons m ms =>
    cases ns with
    | nil =>
      rw [memberChars_cons, List.append_assoc, Reader.quote_append] at hmembers
      cases hmembers
    | cons n ns => exact congrArg (List.cons ',') hmembers

/-- The members have the same name, and values that are written in the same way. -/
def SameMember (m n : String × Value) : Prop := m.1 = n.1 ∧ SameText m.2 n.2

/-- The text of the value is told from what follows it. -/
def Delimited (v : Value) : Prop :=
  ∀ (w : Value) {rest rest' : List Char}, Behind rest → Behind rest' →
    v.chars ++ rest = w.chars ++ rest' → SameText v w ∧ rest = rest'

lemma moreElements_append_inj {vs : List Value} (hvs : ∀ v ∈ vs, v.Delimited) (ws : List Value)
    {rest rest' : List Char}
    (h : moreElements vs ++ ']' :: rest = moreElements ws ++ ']' :: rest') :
    List.Forall₂ SameText vs ws ∧ rest = rest' := by
  induction vs generalizing ws with
  | nil =>
    cases ws with
    | nil => exact ⟨.nil, List.tail_eq_of_cons_eq h⟩
    | cons w ws => cases h
  | cons v vs ih =>
    cases ws with
    | nil => cases h
    | cons w ws =>
      rw [moreElements, moreElements, elementChars_cons, elementChars_cons, List.cons_append,
        List.cons_append, List.append_assoc, List.append_assoc] at h
      obtain ⟨hvw, hmore⟩ := hvs v List.mem_cons_self w (behind_moreElements vs rest)
        (behind_moreElements ws rest') (List.tail_eq_of_cons_eq h)
      obtain ⟨hall, hrest⟩ := ih (fun u hu => hvs u (List.mem_cons_of_mem v hu)) ws hmore
      exact ⟨.cons hvw hall, hrest⟩

lemma moreMembers_append_inj {ms : List (String × Value)} (hms : ∀ m ∈ ms, m.2.Delimited)
    (ns : List (String × Value)) {rest rest' : List Char}
    (h : moreMembers ms ++ '}' :: rest = moreMembers ns ++ '}' :: rest') :
    List.Forall₂ SameMember ms ns ∧ rest = rest' := by
  induction ms generalizing ns with
  | nil =>
    cases ns with
    | nil => exact ⟨.nil, List.tail_eq_of_cons_eq h⟩
    | cons n ns => cases h
  | cons m ms ih =>
    cases ns with
    | nil => cases h
    | cons n ns =>
      obtain ⟨name, v⟩ := m
      obtain ⟨name', w⟩ := n
      rw [moreMembers, moreMembers, memberChars_cons, memberChars_cons, List.cons_append,
        List.cons_append, List.append_assoc, List.append_assoc] at h
      obtain ⟨rfl, hvalue⟩ := quote_append_inj (List.tail_eq_of_cons_eq h)
      rw [List.cons_append, List.cons_append, List.append_assoc, List.append_assoc] at hvalue
      obtain ⟨hvw, hmore⟩ := hms _ List.mem_cons_self w (behind_moreMembers ms rest)
        (behind_moreMembers ns rest') (List.tail_eq_of_cons_eq hvalue)
      obtain ⟨hall, hrest⟩ := ih (fun m hm => hms m (List.mem_cons_of_mem _ hm)) ns hmore
      exact ⟨.cons ⟨rfl, hvw⟩ hall, hrest⟩

/-- Texts of values are told from what follows them. -/
theorem delimited (v : Value) : v.Delimited := by
  intro w rest rest' hrest hrest' h
  have hopening : v.opening = w.opening := by
    rw [v.opening_eq hrest, h, w.opening_eq hrest']
  match v with
  | string s =>
    obtain ⟨t, rfl⟩ : ∃ t, w = string t := by cases w <;> simp_all [opening]
    rw [chars, chars] at h
    obtain ⟨rfl, hrest⟩ := quote_append_inj h
    exact ⟨rfl, hrest⟩
  | array vs =>
    obtain ⟨ws, rfl⟩ : ∃ ws, w = array ws := by cases w <;> simp_all [opening]
    obtain ⟨-, rfl⟩ :=
      moreElements_append_inj (fun u hu => u.delimited) ws (moreElements_eq_of_array h)
    exact ⟨List.append_cancel_right h, rfl⟩
  | object ms =>
    obtain ⟨ns, rfl⟩ : ∃ ns, w = object ns := by cases w <;> simp_all [opening]
    obtain ⟨-, rfl⟩ :=
      moreMembers_append_inj (fun m hm => m.2.delimited) ns (moreMembers_eq_of_object h)
    exact ⟨List.append_cancel_right h, rfl⟩
  | null | natural n | integer i | float x =>
    exact chars_append_inj_of_opening rfl hopening.symm hrest hrest' h
termination_by sizeOf v
decreasing_by
  · have hlt := List.sizeOf_lt_of_mem hu
    simp only [array.sizeOf_spec]
    omega
  · have hlt := List.sizeOf_lt_of_mem hm
    obtain ⟨name, u⟩ := m
    simp only [object.sizeOf_spec, Prod.mk.sizeOf_spec] at hlt ⊢
    omega

/-- Nothing need be known of what follows an array. -/
lemma array_append_inj {vs ws : List Value} {rest rest' : List Char}
    (h : (array vs).chars ++ rest = (array ws).chars ++ rest') :
    List.Forall₂ SameText vs ws ∧ rest = rest' :=
  moreElements_append_inj (fun v _ => v.delimited) ws (moreElements_eq_of_array h)

lemma moreElements_congr {vs ws : List Value} (h : List.Forall₂ SameText vs ws) :
    moreElements vs = moreElements ws := by
  induction h with
  | nil => rfl
  | cons hvw _ ih => rw [moreElements, moreElements, elementChars_cons, elementChars_cons, hvw, ih]

lemma moreMembers_congr {ms ns : List (String × Value)} (h : List.Forall₂ SameMember ms ns) :
    moreMembers ms = moreMembers ns := by
  induction h with
  | nil => rfl
  | @cons m n _ _ hmn _ ih =>
    obtain ⟨name, v⟩ := m
    obtain ⟨_, w⟩ := n
    obtain ⟨rfl, hvw⟩ := hmn
    rw [moreMembers, moreMembers, memberChars_cons, memberChars_cons, hvw, ih]

theorem sameText_array {vs ws : List Value} :
    SameText (array vs) (array ws) ↔ List.Forall₂ SameText vs ws := by
  constructor
  · intro h
    exact (array_append_inj (congrArg (· ++ []) h)).1
  · intro h
    have helements : elementChars vs = elementChars ws := by
      have hmore := moreElements_congr h
      cases h with
      | nil => rfl
      | cons => exact List.tail_eq_of_cons_eq hmore
    rw [SameText, chars, chars, helements]

theorem sameText_object {ms ns : List (String × Value)} :
    SameText (object ms) (object ns) ↔ List.Forall₂ SameMember ms ns := by
  constructor
  · intro h
    have hmembers := moreMembers_eq_of_object (congrArg (· ++ []) h)
    exact (moreMembers_append_inj (fun m _ => m.2.delimited) ns hmembers).1
  · intro h
    have hmembers : memberChars ms = memberChars ns := by
      have hmore := moreMembers_congr h
      cases h with
      | nil => rfl
      | cons => exact List.tail_eq_of_cons_eq hmore
    rw [SameText, chars, chars, hmembers]

end Value

end Json

end Groupwise
