import Groupwise.Proofs.Comparing
import Groupwise.Proofs.Distinguishing

/-!
# Reports that say identical

Equal digests do not tell infinities from not-a-number, but the check made before does: it compares
extremes, and sums that are not finite, to the last bit (`rel_of_verifyMapsEqual`). Numbers that
pass the check and are written in the same way are the same. So if a report says that its result is
identical to the baseline, then it is (`Engine.same_of_identical`), unless two different streams
have one hash.
-/

namespace Groupwise

/-! ### What the check of a result says -/

/-- A result that passes the check has the same keys and values within the tolerance. -/
lemma rel_of_verifyMapsEqual {V K A : Type} [BEq K] [EquivBEq K] [ApproxEq V A]
    {g h : GroupMap K A} {tolerance : V} (hgh : verifyMapsEqual g h tolerance = .ok ()) (k : K) :
    Option.Rel (fun a b => ApproxEq.approxEq a b tolerance = true) (g.get? k) (h.get? k) := by
  obtain ⟨hkeys, hagree⟩ := (verdict_verifyMapsEqual g h tolerance).eq_ok_iff.1 hgh
  have hk := hkeys k
  rw [GroupMap.contains_eq_isSome_get?, GroupMap.contains_eq_isSome_get?] at hk
  cases hwant : g.get? k with
  | none =>
    rw [hwant, Option.isSome_none, eq_comm, Option.isSome_eq_false_iff,
      Option.isNone_iff_eq_none] at hk
    rw [hk]
    exact .none
  | some want =>
    rw [hwant, Option.isSome_some, eq_comm, Option.isSome_iff_exists] at hk
    obtain ⟨got, hgot⟩ := hk
    rw [hgot]
    exact .some (hagree k want got hwant hgot)

lemma Digest.exists_stream {K A : Type} [Ord K] [Json.Encode K] [Json.Encode A]
    {entries : List (K × A)} {digest : Hash256} (h : digestEntries entries = .ok digest) :
    ∃ bytes, entryStream entries = .ok bytes ∧ digest.bytes = Blake3.hash bytes := by
  unfold digestEntries at h
  split at h
  · next bytes hbytes =>
    obtain rfl := Except.ok.inj h
    exact ⟨bytes, hbytes, rfl⟩
  · cases h

/-! ### Summaries that pass the check -/

/-- The summaries have the same count and, to the last bit, the same numbers. -/
structure Stats.Same (s t : Stats Float) : Prop where
  count_eq : s.count = t.count
  sum : Number.same s.sum t.sum = true
  min : Number.same s.min t.min = true
  max : Number.same s.max t.max = true

lemma same_of_sumsClose {x y tolerance : Float} (halike : Json.Alike x y)
    (hclose : Number.sumsClose x y tolerance = true) : Number.same x y = true := by
  rcases halike with rfl | ⟨hx, -⟩
  · exact decide_eq_true rfl
  · have hfinite : (Number.isFinite x && Number.isFinite y) = false := by
      rw [show Number.isFinite x = false from hx, Bool.false_and]
    rwa [Number.sumsClose, hfinite] at hclose

lemma Stats.Alike.same {s t : Stats Float} {tolerance : Float} (halike : s.Alike t)
    (happrox : ApproxEq.approxEq s t tolerance = true) : s.Same t := by
  have hfields : s.approxEq t tolerance = true := happrox
  simp only [Stats.approxEq, Bool.and_eq_true] at hfields
  obtain ⟨⟨⟨-, hmin⟩, hmax⟩, hsum⟩ := hfields
  exact ⟨halike.count_eq, same_of_sumsClose halike.sum hsum, hmin, hmax⟩

/-! ### Reports -/

namespace Engine

/-- The streams behind the digests of two results do not have one hash unless they are equal. -/
def NoCollision (g h : GroupMap (GroupKey Float) (Stats Float)) : Prop :=
  ∀ bytes bytes', Digest.entryStream g.entries = .ok bytes →
    Digest.entryStream h.entries = .ok bytes' →
    Blake3.hash bytes = Blake3.hash bytes' → bytes = bytes'

/-- What a report says of a result that passed the check. -/
lemma verified_of_report {tolerance : Float} {baseline o : RunOutcome Float} {mode : Mode}
    {r : ModeReport Float} (h : report tolerance baseline mode o = .ok r) :
    verifyMapsEqual baseline.result r.outcome.result tolerance = .ok () := by
  have hr := report_eq_ok h
  rw [report] at h
  cases hverify : verifyMapsEqual baseline.result o.result tolerance with
  | error cause => simp [hverify] at h
  | ok u => rw [hr, hverify]

/-- Outcomes of runs with one digest have one stream. -/
lemma stream_eq_of_digest_eq {e e' : Engine Float} {reading reading' : Reading Float}
    {kind kind' : RunKind} {positions : List (Position Float)} {o o' : RunOutcome Float}
    (h : e.run reading kind positions = .ok o) (h' : e'.run reading' kind' positions = .ok o')
    (hcollision : NoCollision o.result o'.result)
    (hdigest : o'.manifest.digest = o.manifest.digest) :
    Digest.entryStream o.result.entries = Digest.entryStream o'.result.entries := by
  obtain ⟨digest, hentries, hmanifest⟩ := digest_of_run h
  obtain ⟨digest', hentries', hmanifest'⟩ := digest_of_run h'
  obtain ⟨bytes, hbytes, hhash⟩ := Digest.exists_stream hentries
  obtain ⟨bytes', hbytes', hhash'⟩ := Digest.exists_stream hentries'
  rw [hmanifest, hmanifest', Option.some.injEq] at hdigest
  rw [hbytes, hbytes', hcollision bytes bytes' hbytes hbytes' (by rw [← hhash, ← hhash', hdigest])]

/-- If a report says that its result is identical to the baseline, then both have the same keys and
under each of them the same summary, to the last bit. -/
theorem same_of_identical (e : Engine Float) (readings : Nat → Reading Float) (grouping : Grouping)
    (style : Style) (modes : List Mode) (positions : List (Position Float))
    {rs : List (ModeReport Float)}
    (h : e.compareModes readings grouping style modes positions = .ok rs) :
    ∃ baseline : RunOutcome Float,
      e.run (readings 0) ⟨.serialEager, style, grouping⟩ positions = .ok baseline ∧
      List.Forall₂ (fun _ r =>
        NoCollision baseline.result r.outcome.result → r.identical = true →
          (∀ k, baseline.result.contains k = r.outcome.result.contains k) ∧
          ∀ k s t, baseline.result.get? k = some s → r.outcome.result.get? k = some t →
            s.Same t) modes rs := by
  obtain ⟨baseline, hbaseline, h⟩ := exists_of_bind_eq_ok h
  refine ⟨baseline, hbaseline, (forall₂_of_reports h).imp ?_⟩
  rintro mode r ⟨o, ho, hr⟩ hcollision hidentical
  have hverify := rel_of_verifyMapsEqual (verified_of_report hr)
  obtain rfl := report_eq_ok hr
  have hdigest : o.manifest.digest = baseline.manifest.digest := of_decide_eq_true hidentical
  have hstream : Digest.entryStream baseline.result.entries =
      Digest.entryStream o.result.entries := by
    rcases ho with ⟨-, rfl⟩ | ⟨n, hrun⟩
    · rfl
    · exact stream_eq_of_digest_eq hbaseline hrun hcollision hdigest
  refine ⟨GroupMap.contains_eq_of_rel hverify, fun k s t hs ht => ?_⟩
  have halike := Digest.rel_of_entryStream_eq hstream k
  have happrox := hverify k
  rw [hs, ht, Option.rel_some_some] at halike happrox
  exact halike.same happrox

/-- Two positions in one account, whose values add up exactly. -/
def halves : List (Position Float) :=
  [0.5, 0.25].map fun price => ⟨⟨"x"⟩, ⟨"p", "A", price⟩, 1⟩

/-- The result of every run over `halves`. -/
def halvesResult : GroupMap (GroupKey Float) (Stats Float) :=
  ⟨[(.account ⟨"x"⟩, ⟨2, 0.75, 0.25, 0.5⟩)], by decide⟩

lemma result_halves {mode : Mode} (hmode : mode = .serialEager ∨ mode = .parallelEager) :
    oneByOne.result quietReading.schedule ⟨mode, .immutable, .account⟩ halves =
      .ok halvesResult := by
  have hsized : oneByOne.Sized halves.length := .of_batchSize rfl (by decide) (by decide)
  obtain ⟨g, hg⟩ : ∃ g, oneByOne.result quietReading.schedule ⟨mode, .immutable, .account⟩ halves =
      .ok g := exists_result_of_hasRoom hsized (.of_batchSize rfl (by decide) _) _
  have hentries : ∀ g ∈ (oneByOne.result quietReading.schedule
      ⟨mode, .immutable, .account⟩ halves).toOption,
      g.entries.map (fun e => (e.1.rank, e.1.name, e.2)) = [(1, "x", ⟨2, 0.75, 0.25, 0.5⟩)] := by
    rcases hmode with rfl | rfl <;> decide +kernel
  have hgx := GroupMap.entries_eq_account (hentries g (by rw [hg]; rfl))
  obtain rfl : g = halvesResult := by
    cases g
    rw [halvesResult, GroupMap.mk.injEq]
    exact hgx
  exact hg

/-- A parallel run over `halves`. -/
theorem same_of_identical_halves :
    ∃ (baseline : RunOutcome Float) (r : ModeReport Float),
      oneByOne.run quietReading ⟨.serialEager, .immutable, .account⟩ halves = .ok baseline ∧
      oneByOne.compareModes (fun _ => quietReading) .account .immutable [.parallelEager] halves =
        .ok [r] ∧
      r.identical = true ∧ NoCollision baseline.result r.outcome.result ∧
      ∀ s t, baseline.result.get? (.account ⟨"x"⟩) = some s →
        r.outcome.result.get? (.account ⟨"x"⟩) = some t → s.Same t := by
  obtain ⟨baseline, hbaseline, hresult⟩ :=
    exists_run_of_result quietReading (result_halves (.inl rfl))
  obtain ⟨o, ho, hresult'⟩ :=
    exists_run_of_result quietReading (result_halves (.inr rfl))
  have hsame : o.result = baseline.result := hresult'.trans hresult.symm
  have hcollision : NoCollision baseline.result o.result := by
    intro bytes bytes' hbytes hbytes' _
    rw [hsame, hbytes] at hbytes'
    exact Except.ok.inj hbytes'
  have hdigest : o.manifest.digest = baseline.manifest.digest := by
    obtain ⟨digest, hentries, hmanifest⟩ := digest_of_run hbaseline
    obtain ⟨digest', hentries', hmanifest'⟩ := digest_of_run ho
    rw [hsame, hentries] at hentries'
    rw [hmanifest, hmanifest', Except.ok.inj hentries']
  have hverify :
      verifyMapsEqual baseline.result o.result oneByOne.config.sumTolerance = .ok () := by
    rw [hsame, hresult]
    rfl
  have hreport : report oneByOne.config.sumTolerance baseline .parallelEager o = .ok ⟨o, true⟩ := by
    rw [report, hverify, decide_eq_true hdigest]
  have hmodes : oneByOne.compareModes (fun _ => quietReading) .account .immutable [.parallelEager]
      halves = .ok [⟨o, true⟩] := by
    rw [compareModes_eq hbaseline, reports_eq_bind, if_neg (by decide), ho]
    show (report oneByOne.config.sumTolerance baseline .parallelEager o >>= _) = _
    rw [hreport]
    rfl
  refine ⟨baseline, ⟨o, true⟩, hbaseline, hmodes, rfl, hcollision, fun s t hs ht => ?_⟩
  obtain ⟨baseline', hbaseline', hall⟩ := same_of_identical oneByOne _ _ _ _ _ hmodes
  obtain rfl := Except.ok.inj (hbaseline.symm.trans hbaseline')
  rw [List.forall₂_cons] at hall
  exact (hall.1 hcollision rfl).2 _ s t hs ht

end Engine

end Groupwise
