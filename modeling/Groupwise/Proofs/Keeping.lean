import Groupwise.Proofs.Tallying

/-!
# Results that agree have one digest

Which of several equal keys a map holds depends on how it came about: a serial run keeps the first
one, a merge takes that of the smaller map. But every key of a result is the key of one of its
positions (`Engine.keysIn_result`). So if positions with equal keys have the same key, then results
that agree under all keys have the same entries up to their order, and one digest, and a report
says so. Without this condition a report may miss it (`report_misses_agreement`).
-/

namespace Groupwise

/-! ### The keys of a map -/

namespace GroupMap

variable {K A B : Type} [BEq K] {S : K → Prop}

/-- Every key that the map holds is in `S`. -/
def KeysIn (S : K → Prop) (g : GroupMap K A) : Prop := ∀ e ∈ g.entries, S e.1

namespace KeysIn

variable {g h : GroupMap K A}

lemma empty : (∅ : GroupMap K A).KeysIn S := by simp [KeysIn]

lemma of_perm (hg : g.KeysIn S) (hgh : h.entries.Perm g.entries) : h.KeysIn S :=
  fun e he => hg e (hgh.mem_iff.1 he)

lemma mono {T : K → Prop} (hg : g.KeysIn S) (hST : ∀ k, S k → T k) : g.KeysIn T :=
  fun e he => hST e.1 (hg e he)

lemma mapValues (hg : g.KeysIn S) (f : A → B) : (g.mapValues f).KeysIn S := by
  intro e he
  obtain ⟨d, hd, rfl⟩ := List.mem_map.1 he
  exact hg d hd

lemma modify (hg : g.KeysIn S) (k : K) (f : A → A) : (g.modify k f).KeysIn S := by
  intro e he
  have hkey : e.1 ∈ (g.modify k f).keys := List.mem_map_of_mem he
  rw [keys_modify] at hkey
  obtain ⟨d, hd, hde⟩ := List.mem_map.1 hkey
  exact hde ▸ hg d hd

lemma insertNew (hg : g.KeysIn S) {k : K} (hk : S k) (a : A) : (g.insertNew k a).KeysIn S := by
  rw [GroupMap.insertNew]
  split_ifs
  · exact hg
  · intro e he
    rcases List.mem_append.1 he with he | he
    · exact hg e he
    · rw [List.mem_singleton.1 he]
      exact hk

lemma upsert (hg : g.KeysIn S) {k : K} (hk : S k) (zero : A) (f : A → A) :
    (g.upsert k zero f).KeysIn S := by
  rw [GroupMap.upsert]
  split_ifs
  · exact hg.modify k f
  · exact (hg.insertNew hk zero).modify k f

variable [Merge A]

lemma absorb (hg : g.KeysIn S) {k : K} (hk : S k) (a : A) : (g.absorb k a).KeysIn S := by
  intro e he
  rw [GroupMap.absorb, entries_replace] at he
  rcases List.mem_append.1 he with he | he
  · exact hg e (List.mem_of_mem_filter he)
  · rw [List.mem_singleton.1 he]
    exact hk

lemma foldl_absorb {es : List (K × A)} (hg : g.KeysIn S) (hes : ∀ e ∈ es, S e.1) :
    (es.foldl (fun g e => g.absorb e.1 e.2) g).KeysIn S := by
  induction es generalizing g with
  | nil => exact hg
  | cons e es ih =>
    exact ih (hg.absorb (hes e (by simp)) e.2) fun d hd => hes d (by simp [hd])

/-- A merge holds keys of the two maps only. -/
lemma merge (hg : g.KeysIn S) (hh : h.KeysIn S) : (g.merge h).KeysIn S := by
  unfold GroupMap.merge
  split_ifs
  · exact hg.foldl_absorb hh
  · exact hh.foldl_absorb hg

end KeysIn

end GroupMap

/-! ### The keys of runs -/

section

variable {R K A : Type} [BEq K]

/-- The keys of the given records. -/
def KeyOf (key : R → K) (records : List R) (k : K) : Prop := ∃ r ∈ records, key r = k

omit [BEq K] in
lemma KeyOf.mono {key : R → K} {records records' : List R} (h : records ⊆ records') {k : K}
    (hk : KeyOf key records k) : KeyOf key records' k := by
  obtain ⟨r, hr, rfl⟩ := hk
  exact ⟨r, h hr, rfl⟩

variable (key : R → K) (zero : A) (add : A → R → A)

lemma keysIn_group (records : List R) :
    (group key zero add records).KeysIn (KeyOf key records) := by
  induction records using List.reverseRecOn with
  | nil => exact .empty
  | append_singleton rs r ih =>
    rw [group_snoc]
    exact (ih.mono fun k hk => hk.mono (List.subset_append_left rs [r])).upsert
      ⟨r, by simp, rfl⟩ zero _

variable [Merge A]

lemma Reduction.keysIn_value (t : Reduction (List R)) :
    ((t.map (group key zero add)).value ∅ GroupMap.merge).KeysIn
      (KeyOf key t.leaves.flatten) := by
  induction t with
  | identity => exact .empty
  | part records => simpa [map, value] using keysIn_group key zero add records
  | join l r ihl ihr =>
    rw [leaves_join, List.flatten_append]
    exact (ihl.mono fun k hk => hk.mono (List.subset_append_left _ _)).merge
      (ihr.mono fun k hk => hk.mono (List.subset_append_right _ _))

variable {key zero add}

lemma FoldedFrom.keysIn [EquivBEq K] {parts : List (List R)} {style : Style} {g : GroupMap K A}
    (h : FoldedFrom key zero add parts style g) : g.KeysIn (KeyOf key parts.flatten) := by
  cases h with
  | @immutable t h | @inPlaceReduce t h => exact h ▸ t.keysIn_value key zero add
  | @inPlace order g h hg =>
    exact ((keysIn_group key zero add order).of_perm hg.perm).mono fun k hk =>
      hk.mono h.perm.subset

end

/-! ### Maps that agree -/

namespace GroupMap

variable {K A : Type} [BEq K] [EquivBEq K] {S : K → Prop} {g h : GroupMap K A}

/-- Maps of values that agree have the same entries if equal keys are the same key. -/
lemma sameEntries_of_get? (hS : ∀ k l, S k → S l → (k == l) = true → k = l) (hg : g.KeysIn S)
    (hh : h.KeysIn S) (hget : ∀ k, g.get? k = h.get? k) : g.SameEntries h := by
  intro k
  have hk := hget k
  rw [get?_eq, get?_eq] at hk
  cases hgk : g.find? k with
  | none =>
    rw [hgk, Option.map_none, eq_comm, Option.map_eq_none_iff] at hk
    exact hk.symm
  | some d =>
    rw [hgk, Option.map_some, eq_comm, Option.map_eq_some_iff] at hk
    obtain ⟨e, hhk, hvalue⟩ := hk
    obtain ⟨hd, hdk⟩ := find?_eq_some_iff.1 hgk
    obtain ⟨he, hek⟩ := find?_eq_some_iff.1 hhk
    have hkey : d.1 = e.1 := hS _ _ (hg d hd) (hh e he) (BEq.trans hdk (BEq.symm hek))
    rw [hhk, Prod.ext hkey hvalue.symm]

end GroupMap

section

variable {V A : Type}

lemma GroupKey.compare_eq_iff {k l : GroupKey V} : compare k l = .eq ↔ (k == l) = true := by
  show (compare k.rank l.rank).then (compare k.name l.name) = .eq ↔ _
  rw [Ordering.then_eq_eq, compare_eq_iff_eq, compare_eq_iff_eq, GroupKey.beq_iff]

/-- Maps with the same entries have one digest. -/
lemma GroupMap.SameEntries.digest_eq [Json.ToValue V] [Json.Encode A]
    {g h : GroupMap (GroupKey V) A} (hgh : g.SameEntries h) :
    digestEntries g.entries = digestEntries h.entries := by
  have hdistinct : g.entries.Pairwise fun e f => compare e.1 f.1 ≠ .eq :=
    g.distinct.imp fun {e f} hef heq => by simp [GroupKey.compare_eq_iff.1 heq] at hef
  rw [digestEntries, digestEntries, Digest.entryStream, Digest.entryStream,
    Entries.sorted_eq_of_perm hgh.perm hdistinct]

end

/-! ### Reports -/

/-- Products of one name are one product. -/
def ConsistentProducts {V : Type} (positions : List (Position V)) : Prop :=
  ∀ p ∈ positions, ∀ q ∈ positions, p.product.name = q.product.name → p.product = q.product

/-- Only products can be equal as keys and yet differ. -/
lemma Grouping.key_unique {V : Type} {grouping : Grouping} {positions : List (Position V)}
    (h : grouping = .product → ConsistentProducts positions) (k l : GroupKey V)
    (hk : KeyOf grouping.key positions k) (hl : KeyOf grouping.key positions l)
    (hkl : (k == l) = true) : k = l := by
  obtain ⟨p, hp, rfl⟩ := hk
  obtain ⟨q, hq, rfl⟩ := hl
  have hname := (GroupKey.beq_iff.1 hkl).2
  cases grouping with
  | product => exact congrArg GroupKey.product (h rfl p hp q hq hname)
  | account => exact congrArg (GroupKey.account ∘ Account.mk) hname
  | category => exact congrArg GroupKey.category hname

namespace Engine

variable {V : Type} [Number V]

/-- Every key of a result is the key of a position, in every mode and style. -/
lemma keysIn_result (e : Engine V) {schedule : Schedule (GroupKey V)} {kind : RunKind}
    {positions : List (Position V)} {result : GroupMap (GroupKey V) (Stats V)}
    (h : e.result schedule kind positions = .ok result) :
    result.KeysIn (KeyOf kind.grouping.key positions) := by
  obtain ⟨parts, hparts, hmakes⟩ := result_eq_ok h
  have hmono : ∀ k, KeyOf kind.grouping.key parts.flatten k → KeyOf kind.grouping.key positions k :=
    fun k hk => hk.mono (flatten_parts_subset hparts)
  obtain ⟨mode, style, grouping⟩ := kind
  cases style with
  | immutable => exact (FoldedFrom.keysIn hmakes).mono hmono
  | inPlace | inPlaceReduce =>
    obtain ⟨g, hg, rfl⟩ := hmakes
    exact (hg.keysIn.mapValues _).mono hmono

/-- Serial runs take no choices and do not depend on whether they are eager. -/
lemma result_serial (e : Engine V) (schedule schedule' : Schedule (GroupKey V)) {mode : Mode}
    (hmode : mode.isParallel = false) (style : Style) (grouping : Grouping)
    (positions : List (Position V)) :
    e.result schedule ⟨mode, style, grouping⟩ positions =
      e.result schedule' ⟨.serialEager, style, grouping⟩ positions := by
  cases mode <;> first | rfl | cases hmode

variable [Json.ToValue V]

/-- If a result agrees with that of the baseline under every key, then its report says that it is
identical, unless the run was a parallel one that grouped by products of which two have one name
and differ. -/
theorem identical_of_agreement (e : Engine V) (readings : Nat → Reading V) (grouping : Grouping)
    (style : Style) (modes : List Mode) (positions : List (Position V)) {rs : List (ModeReport V)}
    (h : e.compareModes readings grouping style modes positions = .ok rs) :
    ∃ baseline : RunOutcome V,
      e.run (readings 0) ⟨.serialEager, style, grouping⟩ positions = .ok baseline ∧
      List.Forall₂ (fun mode r =>
        (mode.isParallel = true → grouping = .product → ConsistentProducts positions) →
        (∀ k, r.outcome.result.get? k = baseline.result.get? k) → r.identical = true) modes rs := by
  obtain ⟨baseline, hbaseline, h⟩ := exists_of_bind_eq_ok h
  refine ⟨baseline, hbaseline, (reports_eq_ok h).imp ?_⟩
  rintro mode r ⟨houtcome, hidentical⟩ hconsistent hagree
  have hresult := result_of_run hbaseline
  obtain ⟨digest, hdigest, hmanifest⟩ := digest_of_run hbaseline
  rw [hidentical, decide_eq_true_iff]
  obtain ⟨-, hsame⟩ | ⟨n, hrun⟩ := houtcome
  · rw [hsame]
  · have hresult' := result_of_run hrun
    obtain ⟨digest', hdigest', hmanifest'⟩ := digest_of_run hrun
    have hentries : r.outcome.result.SameEntries baseline.result := by
      -- A serial run is the baseline over again; a parallel one may keep other keys.
      cases hmode : mode.isParallel with
      | false =>
        rw [e.result_serial _ (readings 0).schedule hmode, hresult] at hresult'
        rw [Except.ok.inj hresult']
        exact fun _ => rfl
      | true =>
        exact GroupMap.sameEntries_of_get? (Grouping.key_unique (hconsistent hmode))
          (e.keysIn_result hresult') (e.keysIn_result hresult) hagree
    rw [hentries.digest_eq, hdigest] at hdigest'
    rw [hmanifest, hmanifest', Except.ok.inj hdigest']

/-! ### Products that differ under one name -/

omit [Number V] [Json.ToValue V] in
/-- What is found under a key is a matter of the names of keys and their kinds. -/
lemma get?_eq_of_names {A : Type} {g h : GroupMap (GroupKey V) A}
    (hgh : g.entries.map (fun e => (e.1.rank, e.1.name, e.2)) =
      h.entries.map fun e => (e.1.rank, e.1.name, e.2)) (k : GroupKey V) : g.get? k = h.get? k := by
  have hfind : ∀ g : GroupMap (GroupKey V) A, g.get? k =
      ((g.entries.map fun e => (e.1.rank, e.1.name, e.2)).find? fun t =>
        t.1 == k.rank && t.2.1 == k.name).map (·.2.2) := by
    intro g
    rw [List.find?_map, Option.map_map]
    rfl
  rw [hfind, hfind, hgh]

/-- Two workers and batches of one position each. -/
def oneByOne : Engine Float :=
  ⟨{ Config.default with batchSize := some 1 }, ⟨2, Nat.two_pos⟩, .stops, by decide⟩

/-- One piece of a product of the given category. -/
def piece (category : String) : Position Float := ⟨⟨"x"⟩, ⟨"bond", category, 1.0⟩, 1⟩

/-- What the report of a parallel run of `oneByOne` says, and whether the run agrees with the
baseline. -/
def agreement (positions : List (Position Float)) : Option (Bool × Bool) :=
  let names (o : RunOutcome Float) := o.result.entries.map fun e => (e.1.rank, e.1.name, e.2)
  match oneByOne.run quietReading ⟨.serialEager, .immutable, .product⟩ positions,
    oneByOne.compareModes (fun _ => quietReading) .product .immutable [.parallelEager]
      positions with
  | .ok baseline, .ok [r] => some (r.identical, names r.outcome == names baseline)
  | _, _ => none

lemma exists_of_agreement {positions : List (Position Float)} {identical : Bool}
    (h : agreement positions = some (identical, true)) :
    ∃ (baseline : RunOutcome Float) (r : ModeReport Float),
      oneByOne.run quietReading ⟨.serialEager, .immutable, .product⟩ positions = .ok baseline ∧
      oneByOne.compareModes (fun _ => quietReading) .product .immutable [.parallelEager]
        positions = .ok [r] ∧
      (∀ k, r.outcome.result.get? k = baseline.result.get? k) ∧ r.identical = identical := by
  unfold agreement at h
  split at h
  · next baseline r hbaseline hr =>
    rw [Option.some.injEq, Prod.mk.injEq, beq_iff_eq] at h
    exact ⟨baseline, r, hbaseline, hr, get?_eq_of_names h.2, h.1⟩
  · cases h

/-- One product throughout. -/
theorem identical_of_agreement_same_product :
    let positions := [piece "debt", piece "debt"]
    ConsistentProducts positions ∧
    ∃ r : ModeReport Float,
      oneByOne.compareModes (fun _ => quietReading) .product .immutable [.parallelEager]
        positions = .ok [r] ∧ r.identical = true := by
  intro positions
  have hconsistent : ConsistentProducts positions := by
    intro p hp q hq _
    simp only [positions, List.mem_cons, List.not_mem_nil, or_false, or_self] at hp hq
    rw [hp, hq]
  obtain ⟨baseline, r, hbaseline, hr, hagree, -⟩ := exists_of_agreement
    (show agreement positions = some (true, true) by decide +kernel)
  obtain ⟨baseline', hbaseline', hreports⟩ := identical_of_agreement oneByOne _ _ _ _ _ hr
  obtain rfl := Except.ok.inj (hbaseline.symm.trans hbaseline')
  rw [List.forall₂_cons] at hreports
  exact ⟨hconsistent, r, hr, hreports.1 (fun _ _ => hconsistent) hagree⟩

/-- Two products of one name: the serial run keeps the first of them as the key, the merge of the
two batches keeps the second. The summaries agree, and the digests differ. -/
theorem report_misses_agreement :
    ∃ (baseline : RunOutcome Float) (r : ModeReport Float),
      oneByOne.run quietReading ⟨.serialEager, .immutable, .product⟩
        [piece "debt", piece "loan"] = .ok baseline ∧
      oneByOne.compareModes (fun _ => quietReading) .product .immutable [.parallelEager]
        [piece "debt", piece "loan"] = .ok [r] ∧
      (∀ k, r.outcome.result.get? k = baseline.result.get? k) ∧ r.identical = false :=
  exists_of_agreement (by decide +kernel)

end Engine

end Groupwise
