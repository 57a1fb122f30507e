import Groupwise.Text.Utf8
import Mathlib

/-!
# Texts as bytes

The bytes of a text are those of its characters in order, and they are read back. All bytes of a
character beyond ASCII are beyond ASCII too, so an ASCII byte in an encoded text always stands for
itself (`Utf8.mem_encode_ascii`). Texts and their bytes have the same order (`Utf8.encode_lt`).
-/

namespace Groupwise.Utf8

/-! ### Byte arrays as lists -/

lemma toList_loop (b : ByteArray) (i : Nat) (r : List UInt8) :
    ByteArray.toList.loop b i r = r.reverse ++ b.data.toList.drop i := by
  fun_induction ByteArray.toList.loop b i r with
  | case1 i r h ih =>
    have hi : i < b.data.toList.length := h
    have hget : b.get! i = b.data.toList[i] := by
      show b.data[i]! = _
      rw [getElem!_pos b.data i h, Array.getElem_toList]
    rw [ih, List.drop_eq_getElem_cons hi, List.reverse_cons, List.append_assoc, hget]
    rfl
  | case2 i r h =>
    rw [List.drop_eq_nil_of_le (Nat.not_lt.1 h), List.append_nil]

lemma toList_eq (b : ByteArray) : b.toList = b.data.toList :=
  toList_loop b 0 []

/-! ### Characters -/

lemma encode_eq (s : String) : encode s = s.toList.flatMap String.utf8EncodeChar := by
  have h : s.toByteArray = s.toList.utf8Encode := by
    conv_lhs => rw [← String.ofList_toList (s := s), String.toByteArray_ofList]
  show s.toByteArray.toList = _
  rw [toList_eq, h, List.utf8Encode, List.data_toByteArray]

lemma encode_ofList (cs : List Char) :
    encode (String.ofList cs) = cs.flatMap String.utf8EncodeChar := by
  rw [encode_eq, String.toList_ofList]

lemma decode?_encode (s : String) : decode? (encode s) = some s := by
  have hbytes : (⟨(encode s).toArray⟩ : ByteArray) = s.toByteArray := by
    show (⟨s.toByteArray.toList.toArray⟩ : ByteArray) = _
    rw [toList_eq, Array.toArray_toList]
  rw [decode?, hbytes]
  exact dif_pos s.isValidUTF8

/-- No character's bytes start with those of another one. -/
lemma encodeChar_append_inj {c d : Char} {l l' : List UInt8}
    (h : String.utf8EncodeChar c ++ l = String.utf8EncodeChar d ++ l') : c = d ∧ l = l' := by
  have hdecode := congrArg (fun l => l.toByteArray.utf8DecodeChar? 0) h
  simp only [List.toByteArray_append, ByteArray.utf8DecodeChar?_utf8EncodeChar_append] at hdecode
  obtain rfl := Option.some.inj hdecode
  exact ⟨rfl, List.append_cancel_left h⟩

/-- Texts whose bytes go on alike can be made to go on alike themselves. -/
lemma exists_append_eq {cs ds : List Char} {l l' : List UInt8}
    (h : cs.flatMap String.utf8EncodeChar ++ l = ds.flatMap String.utf8EncodeChar ++ l') :
    ∃ xs ys, cs ++ xs = ds ++ ys := by
  induction cs generalizing ds with
  | nil => exact ⟨ds, [], (List.append_nil ds).symm⟩
  | cons c cs ih =>
    cases ds with
    | nil => exact ⟨[], c :: cs, List.append_nil _⟩
    | cons d ds =>
      rw [List.flatMap_cons, List.flatMap_cons, List.append_assoc, List.append_assoc] at h
      obtain ⟨rfl, hrest⟩ := encodeChar_append_inj h
      obtain ⟨xs, ys, hxy⟩ := ih hrest
      exact ⟨xs, ys, congrArg (List.cons c) hxy⟩

/-! ### ASCII -/

lemma encodeChar_ascii {c : Char} (hc : c.toNat < 0x80) :
    String.utf8EncodeChar c = [UInt8.ofNat c.toNat] := by
  have hle : c.val.toNat ≤ 127 := Nat.le_of_lt_succ hc
  simp only [String.utf8EncodeChar, hle, ↓reduceIte]
  rfl

lemma le_toNat_ofNat {n : Nat} (hl : 0x80 ≤ n) (hu : n < 0x100) : 0x80 ≤ (UInt8.ofNat n).toNat := by
  rw [UInt8.toNat_ofNat']
  omega

lemma le_toNat_of_mem_encodeChar {c : Char} (hc : ¬ c.toNat < 0x80) {b : UInt8}
    (hb : b ∈ String.utf8EncodeChar c) : 0x80 ≤ b.toNat := by
  have hgt : ¬ c.val.toNat ≤ 127 := fun h => hc (Nat.lt_succ_of_le h)
  simp only [String.utf8EncodeChar, hgt, ↓reduceIte] at hb
  split_ifs at hb <;> simp only [List.mem_cons, List.not_mem_nil, or_false] at hb
  · rcases hb with rfl | rfl <;> exact le_toNat_ofNat (by omega) (by omega)
  · rcases hb with rfl | rfl | rfl <;> exact le_toNat_ofNat (by omega) (by omega)
  · rcases hb with rfl | rfl | rfl | rfl <;> exact le_toNat_ofNat (by omega) (by omega)

/-- An ASCII byte of a character is the whole character. -/
lemma encodeChar_of_mem {b : UInt8} (hb : b.toNat < 0x80) {c : Char}
    (h : b ∈ String.utf8EncodeChar c) :
    String.utf8EncodeChar c = [b] ∧ c = Char.ofNat b.toNat := by
  have hc : c.toNat < 0x80 := by
    by_contra hc
    exact absurd hb (Nat.not_lt.2 (le_toNat_of_mem_encodeChar hc h))
  rw [encodeChar_ascii hc] at h ⊢
  obtain rfl := List.mem_singleton.1 h
  have hnat : (UInt8.ofNat c.toNat).toNat = c.toNat := by
    rw [UInt8.toNat_ofNat']
    omega
  exact ⟨rfl, by rw [hnat, Char.ofNat_toNat]⟩

/-- An ASCII byte is in a text if and only if its character is. -/
lemma mem_encode_ascii {b : UInt8} (hb : b.toNat < 0x80) {s : String} :
    b ∈ encode s ↔ Char.ofNat b.toNat ∈ s.toList := by
  rw [encode_eq, List.mem_flatMap]
  constructor
  · rintro ⟨c, hc, hbc⟩
    obtain ⟨-, rfl⟩ := encodeChar_of_mem hb hbc
    exact hc
  · intro hc
    refine ⟨_, hc, ?_⟩
    have hvalid : (Char.ofNat b.toNat).toNat = b.toNat := by
      rw [Char.toNat_ofNat, if_pos (Or.inl (by omega))]
    rw [encodeChar_ascii (by omega), hvalid]
    simp

/-- The first byte of a text, if it is ASCII, is its first character. -/
lemma head?_of_encode_eq_cons {s : String} {l : List UInt8} {b : UInt8} (hb : b.toNat < 0x80)
    (h : encode s = b :: l) : s.toList.head? = some (Char.ofNat b.toNat) := by
  rw [encode_eq] at h
  match hs : s.toList, h with
  | c :: cs, h =>
    have hfirst : b ∈ String.utf8EncodeChar c := by
      have hne : String.utf8EncodeChar c ≠ [] := String.utf8EncodeChar_ne_nil
      have hget := congrArg List.head? h
      rw [List.flatMap_cons, List.head?_append_of_ne_nil _ hne] at hget
      exact List.mem_of_mem_head? hget
    rw [(encodeChar_of_mem hb hfirst).2]
    rfl

/-- The last byte of a text, if it is ASCII, is its last character. -/
lemma exists_of_encode_eq_append {s : String} {l : List UInt8} {b : UInt8} (hb : b.toNat < 0x80)
    (h : encode s = l ++ [b]) :
    ∃ t, l = encode t ∧ s.toList = t.toList ++ [Char.ofNat b.toNat] := by
  rw [encode_eq] at h
  obtain hnil | ⟨cs, c, hcs⟩ := List.eq_nil_or_concat s.toList
  · rw [hnil] at h
    simp at h
  rw [hcs, List.concat_eq_append, List.flatMap_append, List.flatMap_singleton] at h
  have hlast : b ∈ String.utf8EncodeChar c := by
    have hne : String.utf8EncodeChar c ≠ [] := String.utf8EncodeChar_ne_nil
    have hget := congrArg List.getLast? h
    rw [List.getLast?_append_of_ne_nil _ hne, List.getLast?_concat] at hget
    exact List.mem_of_getLast? hget
  obtain ⟨hbytes, hc⟩ := encodeChar_of_mem hb hlast
  rw [hbytes] at h
  obtain ⟨rfl, -⟩ := List.append_inj' h rfl
  refine ⟨String.ofList cs, (encode_ofList cs).symm, ?_⟩
  rw [hcs, List.concat_eq_append, String.toList_ofList, ← hc]

/-! ### Order -/

/-- Bytes are ordered by the first one that differs. -/
lemma cons_lt_cons {m n : ℕ} (hm : m < 0x100) (hn : n < 0x100) (hle : m ≤ n) {l l' : List UInt8}
    (h : m = n → l < l') : UInt8.ofNat m :: l < UInt8.ofNat n :: l' := by
  rw [List.cons_lt_cons_iff, UInt8.lt_iff_toNat_lt, UInt8.toNat_ofNat', UInt8.toNat_ofNat']
  rcases Nat.lt_or_eq_of_le hle with hlt | rfl
  · left
    omega
  · exact .inr ⟨rfl, h rfl⟩

lemma cons_lt_cons_of_lt {m n : ℕ} (hn : n < 0x100) (hlt : m < n) (l l' : List UInt8) :
    UInt8.ofNat m :: l < UInt8.ofNat n :: l' :=
  cons_lt_cons (hlt.trans hn) hn hlt.le fun h => absurd h hlt.ne

/-- The bytes of characters are ordered as the characters are, whatever follows them. -/
lemma encodeChar_lt {c d : Char} (h : c < d) (l l' : List UInt8) :
    String.utf8EncodeChar c ++ l < String.utf8EncodeChar d ++ l' := by
  have hlt : c.val.toNat < d.val.toNat := h
  have hbound : d.val.toNat < 0x110000 := by
    rcases d.valid with h | h <;> omega
  simp only [String.utf8EncodeChar]
  generalize c.val.toNat = m, d.val.toNat = n at hlt hbound
  split_ifs <;> simp only [List.cons_append, List.nil_append]
  -- The first character cannot have more bytes. If it has fewer, or if both have one, then the
  -- first bytes differ.
  any_goals omega
  any_goals refine cons_lt_cons_of_lt ?_ ?_ _ _ <;> omega
  · refine cons_lt_cons (by omega) (by omega) (by omega) fun h₁ => ?_
    exact cons_lt_cons_of_lt (by omega) (by omega) _ _
  · refine cons_lt_cons (by omega) (by omega) (by omega) fun h₁ => ?_
    refine cons_lt_cons (by omega) (by omega) (by omega) fun h₂ => ?_
    exact cons_lt_cons_of_lt (by omega) (by omega) _ _
  · refine cons_lt_cons (by omega) (by omega) (by omega) fun h₁ => ?_
    refine cons_lt_cons (by omega) (by omega) (by omega) fun h₂ => ?_
    refine cons_lt_cons (by omega) (by omega) (by omega) fun h₃ => ?_
    exact cons_lt_cons_of_lt (by omega) (by omega) _ _

/-- The bytes of texts are ordered as the texts are. -/
lemma encode_lt {s t : String} (h : s < t) : encode s < encode t := by
  rw [String.lt_iff_toList_lt] at h
  rw [encode_eq, encode_eq]
  generalize s.toList = cs, t.toList = ds at h
  induction cs generalizing ds with
  | nil =>
    obtain ⟨d, ds, rfl⟩ := List.exists_cons_of_ne_nil (l := ds) (by rintro rfl; cases h)
    obtain ⟨b, bs, hb⟩ := List.exists_cons_of_ne_nil (String.utf8EncodeChar_ne_nil (c := d))
    rw [List.flatMap_nil, List.flatMap_cons, hb]
    exact List.nil_lt_cons _ _
  | cons c cs ih =>
    cases ds with
    | nil => cases h
    | cons d ds =>
      rw [List.flatMap_cons, List.flatMap_cons]
      rcases List.cons_lt_cons_iff.1 h with hcd | ⟨rfl, hrest⟩
      · exact encodeChar_lt hcd _ _
      · exact List.append_left_lt (ih ds hrest)

end Groupwise.Utf8
