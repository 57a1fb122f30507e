import Groupwise.Proofs.Digits
import Groupwise.Proofs.Generating
import Groupwise.Proofs.Rereading
import Mathlib

/-!
# Generated positions are consistent

Positions that are made from draws in range have names of fixed width, prices and quantities in
range (`Position.Regular`), and all positions of a product name have the product that was drawn
first under it. So a table of them is read without complaint, and as it was written
(`Generator.positions_sound`).
-/

namespace Groupwise

open Rounded

/-! ### Names -/

/-- The text consists of `n` decimal digits. -/
def IsNumeral (n : ℕ) (s : String) : Prop :=
  s.toList.length = n ∧ ∀ c ∈ s.toList, c.isDigit = true

/-- Numbers that fit are padded to exactly the width. -/
lemma isNumeral_paddedName {width n : ℕ} (hwidth : 0 < width) (hn : n < 10 ^ width) :
    IsNumeral width (paddedName width n) := by
  have hlength : (Nat.toDigits 10 n).length ≤ width :=
    (Nat.length_toDigits_le_iff (by decide) hwidth).2 hn
  rw [IsNumeral, paddedName, String.toList_ofList]
  constructor
  · rw [List.length_append, List.length_replicate]
    omega
  · intro c hc
    rcases List.mem_append.1 hc with hc | hc
    · rw [List.eq_of_mem_replicate hc]
      rfl
    · exact isDigit_of_mem_toDigits hc

/-- The text is one letter from A to Z. -/
def IsLetter (s : String) : Prop := ∃ c : Char, s.toList = [c] ∧ 'A' ≤ c ∧ c ≤ 'Z'

lemma isLetter_letterName {n : ℕ} (hn : n < 26) : IsLetter (letterName n) := by
  have hall : ∀ n : Fin 26,
      'A' ≤ Char.ofNat ('A'.toNat + n) ∧ Char.ofNat ('A'.toNat + n) ≤ 'Z' := by
    decide
  exact ⟨_, String.toList_ofList, hall ⟨n, hn⟩⟩

/-! ### Positions -/

/-- The names of a position are of the fixed widths, its price and its quantity are in range. -/
structure Position.Regular (p : Position Float) : Prop where
  account : IsNumeral 5 p.account.name
  product : IsNumeral 3 p.product.name
  category : IsLetter p.category
  price : 1.0 ≤ p.product.price ∧ p.product.price < 100.0
  quantity : 1 ≤ p.quantity ∧ p.quantity ≤ 9

variable {ds : List (Draw Float)} {ps : List (Position Float)} {d : Draw Float}
  {p : Position Float}

lemma Draw.Yields.regular (h : Draw.Yields ds d p) (hd : d ∈ ds) (hds : ∀ d ∈ ds, d.InRange) :
    p.Regular := by
  obtain ⟨e, he, hproduct⟩ := h.exists_described
  refine ⟨?_, ?_, ?_, ?_, ?_⟩
  · rw [h.account]
    exact isNumeral_paddedName (by decide) (hds d hd).account
  · rw [← hproduct]
    exact isNumeral_paddedName (by decide) (hds e he).product
  · rw [Position.category, ← hproduct]
    exact isLetter_letterName (hds e he).letter
  · rw [← hproduct]
    exact (hds e he).price
  · rw [h.quantity]
    exact (hds d hd).quantity

/-- Positions of one product name have one product. -/
lemma consistentProducts_of_yields (h : List.Forall₂ (Draw.Yields ds) ds ps) :
    ConsistentProducts ps := by
  intro p hp q hq hname
  obtain ⟨d, -, hd⟩ := exists_of_forall₂ h hp
  obtain ⟨e, -, he⟩ := exists_of_forall₂ h hq
  have hsame : (d.described == e.described) = true := by
    rw [Product.beq_iff, ← hd.name, ← he.name, hname]
  have hproduct := hd.product
  rw [show (· == d.described) = (· == e.described) from funext fun _ => BEq.congr_right hsame,
    he.product] at hproduct
  exact (Option.some.inj hproduct).symm

/-! ### Tables -/

lemma finite_of_price {x : Float} (hlow : 1.0 ≤ x) (hhigh : x < 100.0) :
    x.isFinite = true ∧ ¬ x < 0.0 := by
  obtain ⟨q, hq⟩ := exists_hasValue_of_between hasValue_one hasValue_hundred hlow hhigh
  exact hq.finite

lemma IsNumeral.trimmed {n : ℕ} {s : String} (h : IsNumeral n s) : Text.Trimmed s :=
  Text.trimmed_of_graphic fun c hc => PositionTable.graphic_of_numeric (.inl (h.2 c hc))

lemma IsLetter.trimmed {s : String} (h : IsLetter s) : Text.Trimmed s := by
  obtain ⟨c, hs, hlow, hhigh⟩ := h
  refine Text.trimmed_of_graphic fun a ha => ?_
  rw [hs] at ha
  have hlow' : 65 ≤ c.toNat := hlow
  have hhigh' : c.toNat ≤ 90 := hhigh
  rw [List.mem_singleton.1 ha]
  exact ⟨by omega, by omega⟩

lemma Position.Regular.tabular (h : p.Regular) : p.Tabular where
  account := h.account.trimmed
  product := by
    obtain ⟨hfinite, hnonneg⟩ := finite_of_price h.price.1 h.price.2
    exact ⟨h.product.trimmed, h.category.trimmed, hfinite, hnonneg⟩
  quantity := h.quantity.2.trans_lt (by decide)

/-! ### Data sets -/

/-- The positions are consistent among each other and with the draws they were made from. -/
structure Sound (ds : List (Draw Float)) (ps : List (Position Float)) : Prop where
  yields : List.Forall₂ (Draw.Yields ds) ds ps
  regular : ∀ p ∈ ps, p.Regular
  same : ConsistentProducts ps
  accepted : PositionTable.read (PositionTable.write PositionTable.writer ps).1 = .ok ps

lemma sound_draws (hds : ∀ d ∈ ds, d.InRange) : Sound ds (PositionKeys.empty.draws ds).1 := by
  obtain ⟨-, hyields⟩ := PositionKeys.drawn_empty.draws ds
  have hregular : ∀ p ∈ (PositionKeys.empty.draws ds).1, p.Regular := by
    intro p hp
    obtain ⟨d, hd, hp⟩ := exists_of_forall₂ hyields hp
    exact hp.regular hd hds
  have hsame := consistentProducts_of_yields hyields
  have htabular : ∀ p ∈ (PositionKeys.empty.draws ds).1, p.Tabular :=
    fun p hp => (hregular p hp).tabular
  exact ⟨hyields, hregular, hsame, PositionTable.read_write_of_same htabular hsame⟩

namespace Generator

/-- However draws in range are split among calls, the positions that are made from them are
consistent; and the positions of a generator are made from draws in range, whatever its seed and
whatever it is asked for. -/
theorem positions_sound :
    (∀ calls : List (List (Draw Float)), (∀ ds ∈ calls, ∀ d ∈ ds, d.InRange) →
      Sound calls.flatten (PositionKeys.empty.drawAll calls).1) ∧
    ∀ (seed : ℕ) (rs : List Request), ∃ calls : List (List (Draw Float)),
      List.Forall₂ Request.Draws rs calls ∧
        ((ofSeed seed).serveAll rs).1 = (PositionKeys.empty.drawAll calls).1 ∧
        Sound calls.flatten ((ofSeed seed).serveAll rs).1 := by
  have hsound : ∀ calls : List (List (Draw Float)), (∀ ds ∈ calls, ∀ d ∈ ds, d.InRange) →
      Sound calls.flatten (PositionKeys.empty.drawAll calls).1 := by
    intro calls hcalls
    rw [PositionKeys.drawAll_eq]
    refine sound_draws fun d hd => ?_
    obtain ⟨ds, hds, hd⟩ := List.mem_flatten.1 hd
    exact hcalls ds hds d hd
  refine ⟨hsound, fun seed rs => ?_⟩
  obtain ⟨calls, hcalls, hpositions, -⟩ := (ofSeed seed).exists_drawAll rs
  refine ⟨calls, hcalls, hpositions, ?_⟩
  rw [hpositions]
  refine hsound calls fun ds hds => ?_
  obtain ⟨r, -, hr⟩ := exists_of_forall₂ hcalls hds
  exact hr.inRange

/-- A product that is drawn again in a later call, with another letter and another price. -/
def redrawn : List (List (Draw Float)) :=
  [[⟨7, 42, 0, 1.5, 9⟩], [⟨99999, 42, 25, 99.5, 1⟩, ⟨7, 0, 25, 1.0, 1⟩]]

theorem positions_sound_redrawn :
    (∀ ds ∈ redrawn, ∀ d ∈ ds, d.InRange) ∧
      Sound redrawn.flatten (PositionKeys.empty.drawAll redrawn).1 ∧
      (PositionKeys.empty.drawAll redrawn).1 =
        [⟨⟨"00007"⟩, ⟨"042", "A", 1.5⟩, 9⟩, ⟨⟨"99999"⟩, ⟨"042", "A", 1.5⟩, 1⟩,
          ⟨⟨"00007"⟩, ⟨"000", "Z", 1.0⟩, 1⟩] := by
  have hrange : ∀ ds ∈ redrawn, ∀ d ∈ ds, d.InRange := by decide +kernel
  exact ⟨hrange, positions_sound.1 redrawn hrange, rfl⟩

end Generator

end Groupwise
