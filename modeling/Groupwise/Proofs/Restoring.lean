import Groupwise.Proofs.Assembling
import Groupwise.Proofs.Delimiting
import Groupwise.Proofs.Numerals
import Groupwise.Stats.Json

/-!
# Summaries that are read back

A float that is no finite number is written as `null`, and no reader of floats takes `null`. So the
text of a summary is read back as the summary if its floats are finite, and otherwise the text is
refused (`Assembly.parse_written`). Summaries of no values are refused already, as the least and the
greatest of no values are infinite.
-/

namespace Groupwise

namespace Json

variable {α β σ : Type}

/-! ### Values that are refused -/

/-- The reader refuses the text of the value. -/
def Refuses (r : Reader α) (v : Value) (fault : Fault) : Prop :=
  ∀ rest, Behind rest → r (v.chars ++ rest) = .error fault

lemma Reader.bind_refused {r : Reader α} {f : α → Reader β} {s : List Char} {fault : Fault}
    (h : r s = .error fault) : (r >>= f) s = .error fault := by
  show (r s >>= fun p => f p.1 p.2) = _
  rw [h]
  rfl

lemma Refuses.run {r : Reader α} {v : Value} {fault : Fault} (h : Refuses r v fault) :
    r.run v.render = .error fault := by
  have hv : r v.render.toList = .error fault := by
    rw [Value.render, String.toList_ofList, ← List.append_nil v.chars]
    exact h [] .nil
  rw [Reader.run, hv]

lemma Refuses.map {r : Reader α} {v : Value} {fault : Fault} (h : Refuses r v fault) (f : α → β) :
    Refuses (do return f (← r)) v fault :=
  fun rest hrest => Reader.bind_refused (h rest hrest)

lemma refuses_float {x : Float} (hx : x.isFinite = false) :
    Refuses Reader.float (.float x) .mismatch := by
  intro rest _
  rw [Value.chars, Value.render_of_not_isFinite hx]
  cases rest <;> rfl

/-- The members fill the fields of a record up to one that is refused. -/
inductive Spoils (fields : List (Reader.Field σ)) (fault : Fault) :
    List (String × Value) → σ → Prop
  | here {name : String} {v : Value} {ms : List (String × Value)} {f : Reader.Field σ} {s : σ}
      (hf : fields.find? (·.name == name) = some f) (hs : f.isSet s = false)
      (hread : Refuses (f.read s) v fault) : Spoils fields fault ((name, v) :: ms) s
  | later {name : String} {v : Value} {ms : List (String × Value)} {f : Reader.Field σ} {s t : σ}
      (hf : fields.find? (·.name == name) = some f) (hs : f.isSet s = false)
      (hread : Reads (f.read s) v t) (h : Spoils fields fault ms t) :
      Spoils fields fault ((name, v) :: ms) s

lemma Reader.members_refused {fields : List (Reader.Field σ)} {fault : Fault}
    {ms : List (String × Value)} {s : σ} (h : Spoils fields fault ms s) {fuel : Nat}
    (hfuel : ms.length < fuel) (first : Bool) (rest : List Char) :
    Reader.members fields fuel first s
      ((if first then Value.memberChars ms else Value.moreMembers ms) ++ '}' :: rest) =
        .error fault := by
  induction h generalizing fuel first with
  | @here name v ms f s hf hs hread =>
    obtain ⟨fuel, rfl⟩ := Nat.exists_eq_add_one.2 (Nat.zero_lt_of_lt hfuel)
    rw [members_cons hf hs, bind_refused (hread _ (Value.behind_moreMembers ms rest))]
  | @later name v ms f s t hf hs hread _ ih =>
    obtain ⟨fuel, rfl⟩ := Nat.exists_eq_add_one.2 (Nat.zero_lt_of_lt hfuel)
    rw [members_cons hf hs, bind_apply (hread _ (Value.behind_moreMembers ms rest))]
    exact ih (by simpa using hfuel) false

lemma refuses_record {fields : List (Reader.Field σ)} {fault : Fault} {ms : List (String × Value)}
    {init : σ} (finish : σ → Option α) (h : Spoils fields fault ms init) :
    Refuses (Reader.record fields init finish) (.object ms) fault := by
  intro rest _
  obtain ⟨fuel, hfuel, hrecord⟩ := Reader.record_object fields init finish ms rest
  have hmembers := Reader.members_refused h hfuel true rest
  rw [if_pos rfl] at hmembers
  rw [hrecord, Reader.bind_refused hmembers]

/-! ### Records of floats -/

/-- What comes of reading the text that was written for `a`, whose floats are `xs`. -/
def readBack (a : α) (xs : List Float) : Except Fault α :=
  if xs.all Float.isFinite then .ok a else .error .mismatch

/-- The members fill a record if the floats `xs` among them are finite, and otherwise one of them
is refused. -/
def Settles (fields : List (Reader.Field σ)) (ms : List (String × Value)) (s t : σ)
    (xs : List Float) : Prop :=
  if xs.all Float.isFinite then Fills fields ms s t else Spoils fields .mismatch ms s

namespace Settles

variable {fields : List (Reader.Field σ)} {name : String} {ms : List (String × Value)}
  {f : Reader.Field σ} {s t u : σ} {xs : List Float}

lemma nil (s : σ) : Settles fields [] s s [] := Fills.nil s

/-- One more member, which is read. -/
lemma cons {v : Value} (hf : fields.find? (·.name == name) = some f) (hs : f.isSet s = false)
    (hread : Reads (f.read s) v t) (h : Settles fields ms t u xs) :
    Settles fields ((name, v) :: ms) s u xs := by
  rw [Settles] at h ⊢
  split_ifs with hall
  · rw [if_pos hall] at h
    exact .cons hf hs hread h
  · rw [if_neg hall] at h
    exact .later hf hs hread h

/-- One more float, which is read if it is finite. -/
lemma float {x : Float} {fill : Float → σ} (hf : fields.find? (·.name == name) = some f)
    (hs : f.isSet s = false) (hread : f.read s = do return fill (← Reader.float))
    (hx : x.isFinite = true → Restored x) (h : Settles fields ms (fill x) u xs) :
    Settles fields ((name, .float x) :: ms) s u (x :: xs) := by
  cases hfinite : x.isFinite with
  | true =>
    have hreads : Reads (f.read s) (.float x) (fill x) := by
      rw [hread]
      exact (hx hfinite).reads.map fill
    have hcons := h.cons hf hs hreads
    rwa [Settles, List.all_cons, hfinite, Bool.true_and]
  | false =>
    rw [Settles, List.all_cons, hfinite, Bool.false_and, if_neg Bool.false_ne_true]
    refine .here hf hs ?_
    rw [hread]
    exact (refuses_float hfinite).map fill

lemma run {finish : σ → Option α} {a : α} (h : Settles fields ms s t xs) (ha : finish t = some a) :
    (Reader.record fields s finish).run (Value.object ms).render = readBack a xs := by
  rw [Settles] at h
  rw [readBack]
  split_ifs with hall
  · rw [if_pos hall] at h
    exact (reads_record h ha).run
  · rw [if_neg hall] at h
    exact (refuses_record finish h).run

end Settles

end Json

open Json

/-! ### Summaries -/

/-- Every count is a word, so it is read back. -/
lemma reads_count (count : UInt64) : Reads readCount (.natural count.toNat) count := by
  have h := (reads_natural count.toNat_lt le_rfl).map UInt64.ofNat
  rwa [UInt64.ofNat_toNat] at h

namespace Stats

/-- The floats of a summary. -/
def numbers (s : Stats Float) : List Float := [s.sum, s.min, s.max]

lemma parse_render {s : Stats Float}
    (hnumbers : ∀ x ∈ s.numbers, x.isFinite = true → Restored x) :
    parse (toValue s).render = readBack s s.numbers := by
  simp only [numbers, List.forall_mem_cons] at hnumbers
  obtain ⟨hsum, hmin, hmax, -⟩ := hnumbers
  refine Settles.run (t := ⟨some s.count, some s.sum, some s.min, some s.max⟩) ?_ rfl
  refine .cons rfl rfl ((reads_count _).map _) ?_
  refine .float rfl rfl rfl hsum ?_
  refine .float rfl rfl rfl hmin ?_
  refine .float rfl rfl rfl hmax ?_
  exact .nil _

end Stats

namespace Accumulator

/-- The floats of an accumulator. -/
def numbers (a : Accumulator Float) : List Float :=
  [a.compensated.sum, a.compensated.compensation, a.plainSum, a.min, a.max]

lemma parse_render {a : Accumulator Float}
    (hnumbers : ∀ x ∈ a.numbers, x.isFinite = true → Restored x) :
    parse (toValue a).render = readBack a a.numbers := by
  simp only [numbers, List.forall_mem_cons] at hnumbers
  obtain ⟨hsum, hcompensation, hplain, hmin, hmax, -⟩ := hnumbers
  refine Settles.run (t := ⟨some a.count, some a.compensated.sum,
    some a.compensated.compensation, some a.plainSum, some a.min, some a.max⟩) ?_ rfl
  refine .cons rfl rfl ((reads_count _).map _) ?_
  refine .float rfl rfl rfl hsum ?_
  refine .float rfl rfl rfl hcompensation ?_
  refine .float rfl rfl rfl hplain ?_
  refine .float rfl rfl rfl hmin ?_
  refine .float rfl rfl rfl hmax ?_
  exact .nil _

end Accumulator

/-! ### Assembled summaries -/

namespace Assembly

variable (t : Assembly Float)

lemma summarizes_stats : Summarizes t.values t.stats.count t.stats.min t.stats.max := by
  have h : Summarizes (t.values.map id) t.stats.count t.stats.min t.stats.max :=
    (t.collected Stats.zero Stats.addValue).summarizes_stats
  rwa [Multiset.map_id] at h

lemma summarizes_accumulator :
    Summarizes t.values t.accumulator.count t.accumulator.min t.accumulator.max := by
  have h : Summarizes (t.values.map id) t.accumulator.count t.accumulator.min t.accumulator.max :=
    (t.collected Accumulator.empty Accumulator.accept).summarizes_accumulator
  rwa [Multiset.map_id] at h

/-- The least of values none of which is finite is not finite either. -/
lemma least_not_isFinite {vs : Multiset Float} {low : Float} (h : LeastOf vs low)
    (hvs : ∀ v ∈ vs, v.isFinite = false) : low.isFinite = false := by
  rcases h.attained with rfl | hmem
  · decide +kernel
  · exact hvs low hmem

/-- A summary is read back from its text if all of its floats are finite, as far as the texts of
these are, and otherwise the text is refused. No summary of values that are all infinite or no
numbers, or of no values at all, is read back. -/
theorem parse_written :
    ((∀ x ∈ t.stats.numbers, x.isFinite = true → Restored x) →
        Stats.parse (toValue t.stats).render = readBack t.stats t.stats.numbers) ∧
      ((∀ x ∈ t.accumulator.numbers, x.isFinite = true → Restored x) →
        Accumulator.parse (toValue t.accumulator).render =
          readBack t.accumulator t.accumulator.numbers) ∧
      ((∀ v ∈ t.values, v.isFinite = false) →
        readBack t.stats t.stats.numbers = .error .mismatch ∧
          readBack t.accumulator t.accumulator.numbers = .error .mismatch) := by
  refine ⟨Stats.parse_render, Accumulator.parse_render, fun hvs => ⟨?_, ?_⟩⟩
  · have hmin := least_not_isFinite t.summarizes_stats.low_least hvs
    rw [readBack, if_neg]
    simp [Stats.numbers, hmin]
  · have hmin := least_not_isFinite t.summarizes_accumulator.low_least hvs
    rw [readBack, if_neg]
    simp [Accumulator.numbers, hmin]

/-- Values of both signs in two parts. -/
def twoSigned : Assembly Float :=
  .merge (.add (.add .empty 0.1) 0.2) (.merge .empty (.add .empty (-2.5)))

theorem parse_written_twoSigned :
    Stats.parse (toValue twoSigned.stats).render = .ok twoSigned.stats ∧
      Accumulator.parse (toValue twoSigned.accumulator).render = .ok twoSigned.accumulator := by
  have hstats : ∀ x ∈ twoSigned.stats.numbers, x.isFinite = true → Restored x := by
    decide +kernel
  have haccumulator : ∀ x ∈ twoSigned.accumulator.numbers, x.isFinite = true → Restored x := by
    decide +kernel
  have hfinite : twoSigned.stats.numbers.all Float.isFinite = true := by decide +kernel
  have hfinite' : twoSigned.accumulator.numbers.all Float.isFinite = true := by decide +kernel
  obtain ⟨hread, hread', -⟩ := twoSigned.parse_written
  refine ⟨(hread hstats).trans ?_, (hread' haccumulator).trans ?_⟩
  · rw [readBack, if_pos hfinite]
  · rw [readBack, if_pos hfinite']

/-- The texts of the summaries of no values are refused, although those of their finite floats are
read back. -/
theorem parse_empty_refused :
    (∀ x ∈ (empty : Assembly Float).stats.numbers ++ (empty : Assembly Float).accumulator.numbers,
        x.isFinite = true → Restored x) ∧
      Stats.parse (toValue (empty : Assembly Float).stats).render = .error .mismatch ∧
      Accumulator.parse (toValue (empty : Assembly Float).accumulator).render =
        .error .mismatch := by
  refine ⟨?_, ?_, ?_⟩
  all_goals decide +kernel

end Assembly

end Groupwise
