import Groupwise.Proofs.Drawing
import Groupwise.Proofs.Interning
import Mathlib

/-!
# Positions of draws

The accounts, products and letters of draws go through three pools (`PositionKeys.Drawn`). So a
position has the account and the quantity of its draw, and the first product that was drawn under
the name of its product (`Draw.Yields`). Whatever a generator is asked for, it makes the positions
of draws that are in range (`Generator.exists_drawAll`), and it does not matter how the draws are
split among the requests (`PositionKeys.drawAll_eq`).

The sizes of two pools are the numbers of accounts and of products that the positions have. The
third one counts letters, and a letter that was drawn for a repeated product need not be the
category of any position (`Generator.distinct_counts`).
-/

namespace Groupwise

/-! ### Related lists -/

section

variable {α β γ : Type} {R : α → β → Prop} {as : List α} {bs : List β}

lemma map_eq_map_of_forall₂ {f : α → γ} {g : β → γ} (h : List.Forall₂ R as bs)
    (hfg : ∀ a b, R a b → f a = g b) : as.map f = bs.map g := by
  rw [← List.forall₂_eq_eq_eq, List.forall₂_map_left_iff, List.forall₂_map_right_iff]
  exact h.imp hfg

lemma exists_of_forall₂ (h : List.Forall₂ R as bs) {b : β} (hb : b ∈ bs) : ∃ a ∈ as, R a b := by
  induction h with
  | nil => cases hb
  | cons hab _ ih =>
    rcases List.mem_cons.1 hb with rfl | hb
    · exact ⟨_, List.mem_cons_self, hab⟩
    · obtain ⟨a, ha, hab⟩ := ih hb
      exact ⟨a, List.mem_cons_of_mem _ ha, hab⟩

end

variable {V : Type}

/-! ### What a draw stands for -/

lemma Account.beq_iff {a b : Account} : (a == b) = true ↔ a.name = b.name := by
  rw [beq_iff_eq]
  exact ⟨congrArg name, fun h => congrArg mk h⟩

namespace Draw

/-- The account that a draw names. -/
def holder (d : Draw V) : Account := ⟨paddedName 5 d.account⟩

/-- The product that a draw describes. -/
def described (d : Draw V) : Product V := ⟨paddedName 3 d.product, letterName d.letter, d.price⟩

/-- The position is made from the draw `d`, one of the draws `ds`: its product is the first one of
its name among them. -/
structure Yields (ds : List (Draw V)) (d : Draw V) (p : Position V) : Prop where
  account : p.account = d.holder
  product : (ds.map described).find? (· == d.described) = some p.product
  quantity : p.quantity = d.quantity

namespace Yields

variable {ds : List (Draw V)} {d : Draw V} {p : Position V}

lemma append (h : Yields ds d p) (es : List (Draw V)) : Yields (ds ++ es) d p where
  account := h.account
  product := by rw [List.map_append, List.find?_append, h.product, Option.some_or]
  quantity := h.quantity

lemma name (h : Yields ds d p) : p.product.name = d.described.name :=
  Product.beq_iff.1 (List.find?_some (p := (· == d.described)) h.product)

lemma exists_described (h : Yields ds d p) : ∃ e ∈ ds, e.described = p.product :=
  List.mem_map.1 (List.mem_of_find?_eq_some h.product)

end Yields

end Draw

/-! ### The pools of a generator -/

namespace PositionKeys

open Draw (Yields)

variable {keys : PositionKeys V} {ds : List (Draw V)}

/-- The keys were filled by the draws. -/
structure Drawn (keys : PositionKeys V) (ds : List (Draw V)) : Prop where
  accounts : keys.accounts.Holds (ds.map Draw.holder)
  products : keys.products.Holds (ds.map Draw.described)
  categories : keys.categories.Holds (ds.map fun d => letterName d.letter)

lemma drawn_empty : (empty : PositionKeys V).Drawn [] :=
  ⟨KeyPool.holds_empty, KeyPool.holds_empty, KeyPool.holds_empty⟩

lemma draw_eq (keys : PositionKeys V) (d : Draw V) :
    keys.draw d =
      (⟨d.holder, (keys.products.put d.described).1.value, d.quantity⟩,
        ⟨(keys.accounts.put d.holder).2, (keys.products.put d.described).2,
          (keys.categories.put (letterName d.letter)).2⟩) := by
  simp only [draw, account, product, KeyPool.value_put]
  rfl

/-- One draw goes into all three pools, whatever comes back from them. -/
lemma Drawn.draw (h : keys.Drawn ds) (d : Draw V) :
    (keys.draw d).2.Drawn (ds ++ [d]) ∧ Yields (ds ++ [d]) d (keys.draw d).1 := by
  obtain ⟨haccounts, -⟩ := h.accounts.put d.holder
  obtain ⟨hproducts, hproduct⟩ := h.products.put d.described
  obtain ⟨hcategories, -⟩ := h.categories.put (letterName d.letter)
  rw [draw_eq]
  refine ⟨⟨?_, ?_, ?_⟩, rfl, ?_, rfl⟩ <;> rwa [List.map_append]

lemma draws_cons (keys : PositionKeys V) (d : Draw V) (ds : List (Draw V)) :
    keys.draws (d :: ds) =
      ((keys.draw d).1 :: ((keys.draw d).2.draws ds).1, ((keys.draw d).2.draws ds).2) := rfl

/-- A sequence of draws leaves the pools filled by all of them, and every draw has its position. -/
theorem Drawn.draws {before : List (Draw V)} (h : keys.Drawn before) (ds : List (Draw V)) :
    (keys.draws ds).2.Drawn (before ++ ds) ∧
      List.Forall₂ (Yields (before ++ ds)) ds (keys.draws ds).1 := by
  induction ds generalizing keys before with
  | nil =>
    rw [List.append_nil]
    exact ⟨h, .nil⟩
  | cons d ds ih =>
    obtain ⟨hkeys, hposition⟩ := h.draw d
    obtain ⟨hdrawn, hpositions⟩ := ih hkeys
    rw [draws_cons, List.append_cons]
    exact ⟨hdrawn, .cons (hposition.append ds) hpositions⟩

lemma draws_append (keys : PositionKeys V) (ds es : List (Draw V)) :
    keys.draws (ds ++ es) =
      ((keys.draws ds).1 ++ ((keys.draws ds).2.draws es).1, ((keys.draws ds).2.draws es).2) := by
  induction ds generalizing keys with
  | nil => rfl
  | cons d ds ih => rw [List.cons_append, draws_cons, ih, draws_cons, List.cons_append]

/-- The positions of several sequences of draws, one after the other. -/
def drawAll (keys : PositionKeys V) : List (List (Draw V)) → List (Position V) × PositionKeys V
  | [] => ([], keys)
  | ds :: calls =>
    let (ps, keys) := keys.draws ds
    let (qs, keys) := keys.drawAll calls
    (ps ++ qs, keys)

lemma drawAll_cons (keys : PositionKeys V) (ds : List (Draw V)) (calls : List (List (Draw V))) :
    keys.drawAll (ds :: calls) =
      ((keys.draws ds).1 ++ ((keys.draws ds).2.drawAll calls).1,
        ((keys.draws ds).2.drawAll calls).2) := rfl

/-- It does not matter how draws are split. -/
lemma drawAll_eq (keys : PositionKeys V) (calls : List (List (Draw V))) :
    keys.drawAll calls = keys.draws calls.flatten := by
  induction calls generalizing keys with
  | nil => rfl
  | cons ds calls ih => rw [drawAll_cons, List.flatten_cons, draws_append, ih]

end PositionKeys

/-! ### Requests to a generator -/

namespace Generator

/-- What a generator is asked for. -/
inductive Request
  | next
  | generate (n : ℕ)
  | shuffle (ps : List (Position Float))

namespace Request

/-- How many positions a request makes. -/
def size : Request → ℕ
  | next => 1
  | generate n => n
  | shuffle _ => 0

/-- The draws are as many as a request takes, and they are in range. -/
structure Draws (r : Request) (ds : List (Draw Float)) : Prop where
  length : ds.length = r.size
  inRange : ∀ d ∈ ds, d.InRange

end Request

/-- The positions that a request makes, and the generator after it. -/
def serve (g : Generator) : Request → List (Position Float) × Generator
  | .next => ([g.next.1], g.next.2)
  | .generate n => g.generate n
  | .shuffle ps => ([], (g.shuffle ps).2)

/-- The positions that requests make one after the other, and the generator after them. -/
def serveAll (g : Generator) : List Request → List (Position Float) × Generator
  | [] => ([], g)
  | r :: rs =>
    let (ps, g) := g.serve r
    let (qs, g) := g.serveAll rs
    (ps ++ qs, g)

lemma serveAll_cons (g : Generator) (r : Request) (rs : List Request) :
    g.serveAll (r :: rs) =
      ((g.serve r).1 ++ ((g.serve r).2.serveAll rs).1, ((g.serve r).2.serveAll rs).2) := rfl

/-- A request makes the positions of its draws. -/
lemma exists_draws (g : Generator) (r : Request) :
    ∃ ds, r.Draws ds ∧ (g.serve r).1 = (g.keys.draws ds).1 ∧
      (g.serve r).2.keys = (g.keys.draws ds).2 := by
  cases r with
  | next =>
    have hrange := List.forall_mem_singleton.2 (Draw.inRange_random g.random)
    exact ⟨[(Draw.random.run g.random).1], ⟨rfl, hrange⟩, rfl, rfl⟩
  | generate n =>
    obtain ⟨hlength, hrange⟩ := Draw.inRange_randoms n g.random
    exact ⟨_, ⟨hlength, hrange⟩, rfl, rfl⟩
  | shuffle ps => exact ⟨[], ⟨rfl, List.forall_mem_nil _⟩, rfl, rfl⟩

/-- Requests make the positions of the draws that they take. -/
theorem exists_drawAll (g : Generator) (rs : List Request) :
    ∃ calls, List.Forall₂ Request.Draws rs calls ∧
      (g.serveAll rs).1 = (g.keys.drawAll calls).1 ∧
      (g.serveAll rs).2.keys = (g.keys.drawAll calls).2 := by
  induction rs generalizing g with
  | nil => exact ⟨[], .nil, rfl, rfl⟩
  | cons r rs ih =>
    obtain ⟨ds, hds, hpositions, hkeys⟩ := g.exists_draws r
    obtain ⟨calls, hcalls, hpositions', hkeys'⟩ := ih (g.serve r).2
    rw [hkeys] at hpositions' hkeys'
    refine ⟨ds :: calls, .cons hds hcalls, ?_, hkeys'⟩
    rw [serveAll_cons, PositionKeys.drawAll_cons, hpositions, hpositions']

end Generator

/-! ### Distinct names -/

/-- What numbers of accounts, products and categories have to do with positions made from draws. -/
structure Counts (ds : List (Draw V)) (ps : List (Position V))
    (accounts products categories : ℕ) : Prop where
  accounts : accounts = (ps.map fun p => p.account.name).toFinset.card
  products : products = (ps.map fun p => p.product.name).toFinset.card
  /-- The categories are the letters that were drawn. -/
  letters : categories = (ds.map fun d => letterName d.letter).toFinset.card
  /-- Not all of them need to be categories of positions. -/
  categories_le : (ps.map Position.category).toFinset.card ≤ categories
  categories_eq : categories = (ps.map Position.category).toFinset.card ↔
    ∀ d ∈ ds, ∃ p ∈ ps, p.category = letterName d.letter

namespace PositionKeys

variable {keys : PositionKeys V} {ds : List (Draw V)} {ps : List (Position V)}

/-- The categories of positions are letters of draws. -/
lemma categories_subset (hps : List.Forall₂ (Draw.Yields ds) ds ps) :
    (ps.map Position.category).toFinset ⊆ (ds.map fun d => letterName d.letter).toFinset := by
  intro c hc
  obtain ⟨p, hp, rfl⟩ := List.mem_map.1 (List.mem_toFinset.1 hc)
  obtain ⟨d, -, hyields⟩ := exists_of_forall₂ hps hp
  obtain ⟨e, he, hproduct⟩ := hyields.exists_described
  rw [List.mem_toFinset]
  exact List.mem_map.2 ⟨e, he, congrArg Product.category hproduct⟩

lemma Drawn.counts (h : keys.Drawn ds) (hps : List.Forall₂ (Draw.Yields ds) ds ps) :
    Counts ds ps keys.accounts.size keys.products.size keys.categories.size := by
  have hsub := categories_subset hps
  have hletters : keys.categories.size = (ds.map fun d => letterName d.letter).toFinset.card := by
    rw [h.categories.size_eq_card (f := id) fun _ _ => beq_iff_eq, List.map_id]
  refine ⟨?_, ?_, hletters, hletters ▸ Finset.card_le_card hsub, ?_⟩
  · rw [← map_eq_map_of_forall₂ (f := fun d => d.holder.name) hps fun d p hp => by rw [hp.account],
      h.accounts.size_eq_card fun _ _ => Account.beq_iff, List.map_map]
    rfl
  · rw [← map_eq_map_of_forall₂ (f := fun d => d.described.name) hps fun d p hp => hp.name.symm,
      h.products.size_eq_card fun _ _ => Product.beq_iff, List.map_map]
    rfl
  · rw [hletters]
    constructor
    · intro hcard d hd
      rw [← List.mem_map, ← List.mem_toFinset, Finset.eq_of_subset_of_card_le hsub hcard.le]
      exact List.mem_toFinset.2 (List.mem_map_of_mem hd)
    · intro hall
      refine congrArg Finset.card (Finset.Subset.antisymm (fun c hc => ?_) hsub)
      obtain ⟨d, hd, rfl⟩ := List.mem_map.1 (List.mem_toFinset.1 hc)
      exact List.mem_toFinset.2 (List.mem_map.2 (hall d hd))

/-- The pools count what draws into empty ones have made. -/
lemma counts_draws (ds : List (Draw V)) :
    Counts ds (empty.draws ds).1 (empty.draws ds).2.accounts.size
      (empty.draws ds).2.products.size (empty.draws ds).2.categories.size := by
  obtain ⟨hdrawn, hpositions⟩ := drawn_empty.draws ds
  exact hdrawn.counts hpositions

end PositionKeys

namespace Generator

/-- Pools count the accounts and the products of the positions that were made from draws. Of
categories they count the letters that were drawn, which are those of the positions only if every
letter that was drawn is the category of some position. So does a generator, of whatever seed and
whatever it was asked for. -/
theorem distinct_counts (ds : List (Draw V)) (seed : ℕ) (rs : List Request) :
    Counts ds (PositionKeys.empty.draws ds).1 (PositionKeys.empty.draws ds).2.accounts.size
        (PositionKeys.empty.draws ds).2.products.size
        (PositionKeys.empty.draws ds).2.categories.size ∧
      ∃ calls : List (List (Draw Float)),
        List.Forall₂ Request.Draws rs calls ∧
          ((ofSeed seed).serveAll rs).1 = (PositionKeys.empty.drawAll calls).1 ∧
          Counts calls.flatten ((ofSeed seed).serveAll rs).1
            ((ofSeed seed).serveAll rs).2.distinctAccounts
            ((ofSeed seed).serveAll rs).2.distinctProducts
            ((ofSeed seed).serveAll rs).2.distinctCategories := by
  refine ⟨PositionKeys.counts_draws ds, ?_⟩
  obtain ⟨calls, hcalls, hpositions, hkeys⟩ := (ofSeed seed).exists_drawAll rs
  refine ⟨calls, hcalls, hpositions, ?_⟩
  rw [distinctAccounts, distinctProducts, distinctCategories, hpositions, hkeys,
    PositionKeys.drawAll_eq]
  exact PositionKeys.counts_draws calls.flatten

/-- The second position of this seed has the product of the first one and its category; the letter
that was drawn for it is counted, but no position has it. -/
theorem distinctCategories_exceeds :
    ((ofSeed 981).generate 2).2.distinctCategories = 2 ∧
      (((ofSeed 981).generate 2).1.map Position.category).toFinset.card = 1 := by
  decide +kernel

end Generator

end Groupwise
