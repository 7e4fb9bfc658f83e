import Mathlib.Data.List.Sort
import TemplateBench.Batch.Summary

/-!
The fastest and the slowest templates of a batch, its median and its 95th percentile.

* `IsRanking`: timings by increasing time, those of equal time in the order of the records.
* `isRanking_ranked`: this is how timings are ranked.
* `Leads`: the entries that come first by a relation. `leads_take` takes them off a sorted list.
* `percentile_eq`: a percentile is the time of one entry of the ranking.
* `summary_ranking`: so the fastest and the slowest entries are the two ends of one ranking, and the
  percentiles stand between them.
-/
namespace TemplateBench
open Decimal

/-- One entry took no longer than another. -/
def Timing.NoSlower (a b : Timing) : Prop := rank a.elapsed ≤ rank b.elapsed

/-- Timings by increasing time; those of equal time are in their recorded order. -/
structure IsRanking (timings order : List Timing) : Prop where
  perm : order.Perm timings
  increasing : order.Pairwise Timing.NoSlower
  stable : ∀ n : Int, order.filter (rank ·.elapsed = n) = timings.filter (rank ·.elapsed = n)

/-- Entries of a list in order, at most five, such that none that is left out precedes one of
them. -/
structure Leads (precedes : Timing → Timing → Prop) (timings picked : List Timing) : Prop where
  length : picked.length = min 5 timings.length
  ordered : picked.Pairwise precedes
  leftOut : ∃ others, timings.Perm (picked ++ others) ∧
    ∀ a ∈ picked, ∀ b ∈ others, precedes a b

/-! ## Sorting by a number -/

section

variable {α : Type} (key : α → Int)

theorem key_trans (a b c : α) (hab : decide (key a ≤ key b) = true)
    (hbc : decide (key b ≤ key c) = true) : decide (key a ≤ key c) = true := by
  rw [decide_eq_true_eq] at hab hbc ⊢
  omega

theorem key_total (a b : α) : (decide (key a ≤ key b) || decide (key b ≤ key a)) = true := by
  rw [Bool.or_eq_true, decide_eq_true_eq, decide_eq_true_eq]
  omega

/-- Elements with one key keep their order. -/
theorem filter_mergeSort (xs : List α) (n : Int) :
    (xs.mergeSort fun a b => decide (key a ≤ key b)).filter (key · = n) =
      xs.filter (key · = n) := by
  have hclass : (xs.filter (key · = n)).Pairwise fun a b => decide (key a ≤ key b) = true := by
    refine List.pairwise_of_forall_mem_list fun a ha b hb => ?_
    have hka : key a = n := of_decide_eq_true (List.mem_filter.mp ha).2
    have hkb : key b = n := of_decide_eq_true (List.mem_filter.mp hb).2
    rw [decide_eq_true_eq, hka, hkb]
  have hsub := List.sublist_mergeSort (key_trans key) (key_total key) hclass List.filter_sublist
  have hfilter := hsub.filter (key · = n)
  rw [List.filter_filter] at hfilter
  have hperm := (List.mergeSort_perm xs fun a b => decide (key a ≤ key b)).filter (key · = n)
  refine (hfilter.eq_of_length ?_).symm.trans ?_
  · simpa using hperm.length_eq.symm
  · simp

end

theorem isRanking_ranked (timings : List Timing) : IsRanking timings (ranked timings) := by
  refine ⟨List.mergeSort_perm _ _, ?_, filter_mergeSort (rank ·.elapsed) timings⟩
  have hsorted := List.pairwise_mergeSort (key_trans fun t : Timing => rank t.elapsed)
    (key_total fun t : Timing => rank t.elapsed) timings
  exact hsorted.imp fun h => of_decide_eq_true h

/-! ## Both ends -/

theorem leads_take {precedes : Timing → Timing → Prop} {timings order : List Timing}
    (hperm : order.Perm timings) (hordered : order.Pairwise precedes) :
    Leads precedes timings (order.take 5) := by
  refine ⟨?_, hordered.take, order.drop 5, ?_, fun a ha b hb => ?_⟩
  · rw [List.length_take, hperm.length_eq]
  · rw [List.take_append_drop]
    exact hperm.symm
  · exact hordered.rel_of_mem_take_of_mem_drop ha hb

theorem slowest_eq (s : Statistics) :
    s.slowest = ((ranked s.timings).drop ((ranked s.timings).length - 5)).reverse :=
  List.take_reverse

theorem fastest_leads (s : Statistics) : Leads Timing.NoSlower s.timings s.fastest :=
  leads_take (isRanking_ranked _).perm (isRanking_ranked _).increasing

theorem slowest_leads (s : Statistics) :
    Leads (fun a b => b.NoSlower a) s.timings s.slowest := by
  have h := isRanking_ranked s.timings
  exact leads_take ((List.reverse_perm _).trans h.perm) (List.pairwise_reverse.mpr h.increasing)

/-- Of at most five entries all are the fastest and all are the slowest ones. -/
theorem slowest_eq_reverse {s : Statistics} (h : s.timings.length ≤ 5) :
    s.slowest = s.fastest.reverse := by
  have hlength : (ranked s.timings).length ≤ 5 := by
    rw [(isRanking_ranked s.timings).perm.length_eq]
    exact h
  rw [slowest_eq, Nat.sub_eq_zero_of_le hlength, List.drop_zero]
  exact congrArg List.reverse (List.take_of_length_le hlength).symm

/-! ## Percentiles -/

/-- A fraction of the last index is an index. -/
theorem fraction_le {num den : Nat} (h : num ≤ den) (n : Nat) : n * num / den ≤ n := by
  rcases Nat.eq_zero_or_pos den with rfl | hden
  · simp
  · calc n * num / den ≤ n * den / den := Nat.div_le_div_right (Nat.mul_le_mul_left n h)
      _ = n := Nat.mul_div_cancel n hden

/-- The sorted times are the times of the ranking. -/
theorem map_elapsed_ranked (timings : List Timing) :
    (ranked timings).map (·.elapsed) =
      (timings.map (·.elapsed)).mergeSort fun a b => rank a ≤ rank b :=
  List.map_mergeSort fun _ _ _ _ => rfl

/-- A percentile is the time of an entry of the ranking. -/
theorem percentile_eq {s : Statistics} (hs : s.timings ≠ []) {num den : Nat} (h : num ≤ den) :
    ∃ t, (ranked s.timings)[(s.timings.length - 1) * num / den]? = some t ∧
      percentile s.times num den = t.elapsed := by
  have hpos := List.length_pos_iff.mpr hs
  have hlt : (s.timings.length - 1) * num / den < (ranked s.timings).length := by
    have hle := fraction_le h (s.timings.length - 1)
    rw [(isRanking_ranked s.timings).perm.length_eq]
    omega
  refine ⟨_, List.getElem?_eq_getElem hlt, ?_⟩
  simp only [percentile, Statistics.times, List.length_map, ← map_elapsed_ranked]
  simp [List.getD_eq_getElem?_getD, hlt]

/-- A ranking never goes down. -/
theorem IsRanking.noSlower {timings order : List Timing} (h : IsRanking timings order) {i j : Nat}
    {a b : Timing} (ha : order[i]? = some a) (hb : order[j]? = some b) (hij : i ≤ j) :
    a.NoSlower b := by
  obtain ⟨hi, rfl⟩ := List.getElem?_eq_some_iff.mp ha
  obtain ⟨hj, rfl⟩ := List.getElem?_eq_some_iff.mp hb
  rcases Nat.lt_or_eq_of_le hij with hlt | rfl
  · exact List.pairwise_iff_getElem.mp h.increasing i j hi hj hlt
  · exact Int.le_refl _

theorem IsRanking.mem_times {s : Statistics} {order : List Timing}
    (h : IsRanking s.timings order) {i : Nat} {t : Timing} (ht : order[i]? = some t) :
    t.elapsed ∈ s.times :=
  List.mem_map_of_mem (h.perm.subset (List.mem_of_getElem? ht))

theorem head?_slowest (s : Statistics) :
    s.slowest.head? = (ranked s.timings)[s.timings.length - 1]? := by
  rw [Statistics.slowest, rankedCount, List.head?_take, if_neg (by decide), List.head?_reverse,
    List.getLast?_eq_getElem?, (isRanking_ranked s.timings).perm.length_eq]

theorem head?_fastest (s : Statistics) : s.fastest.head? = (ranked s.timings)[0]? := by
  rw [Statistics.fastest, rankedCount, List.head?_take, if_neg (by decide), List.head?_eq_getElem?]

/-- **One ranking.** The fastest entries are the first five of a ranking and the slowest ones its
last five, turned around; none that is left out is faster or slower. Percentiles are times of entries
of this ranking, and median and 95th percentile stand between the fastest and the slowest time. -/
theorem summary_ranking (s : Summary) :
    (∃ order, IsRanking s.statistics.timings order ∧ s.statistics.fastest = order.take 5 ∧
      s.statistics.slowest = (order.drop (order.length - 5)).reverse ∧
      (s.statistics.timings ≠ [] → ∀ num den, num ≤ den →
        ∃ t, order[(s.statistics.timings.length - 1) * num / den]? = some t ∧
          percentile s.statistics.times num den = t.elapsed)) ∧
    Leads Timing.NoSlower s.statistics.timings s.statistics.fastest ∧
    Leads (fun a b => b.NoSlower a) s.statistics.timings s.statistics.slowest ∧
    (s.statistics.timings.length ≤ 5 → s.statistics.slowest = s.statistics.fastest.reverse) ∧
    (s.statistics.timings ≠ [] → s.median ∈ s.statistics.times ∧ s.p95 ∈ s.statistics.times ∧
      ∃ first last, s.statistics.fastest.head? = some first ∧
        s.statistics.slowest.head? = some last ∧ rank first.elapsed ≤ rank s.median ∧
        rank s.median ≤ rank s.p95 ∧ rank s.p95 ≤ rank last.elapsed) := by
  have hranking := isRanking_ranked s.statistics.timings
  refine ⟨⟨_, hranking, rfl, slowest_eq _, fun hs num den h => percentile_eq hs h⟩,
    fastest_leads _, slowest_leads _, slowest_eq_reverse, fun hs => ?_⟩
  have hlength := hranking.perm.length_eq
  have hpos := List.length_pos_iff.mpr hs
  obtain ⟨first, hfirst⟩ : ∃ first, (ranked s.statistics.timings)[0]? = some first :=
    ⟨_, List.getElem?_eq_getElem (by omega)⟩
  obtain ⟨last, hlast⟩ : ∃ last,
      (ranked s.statistics.timings)[s.statistics.timings.length - 1]? = some last :=
    ⟨_, List.getElem?_eq_getElem (by omega)⟩
  obtain ⟨middle, hmiddle, hmedian⟩ := percentile_eq hs (by decide : 1 ≤ 2)
  obtain ⟨late, hlate, hp95⟩ := percentile_eq hs (by decide : 19 ≤ 20)
  rw [Summary.median, Summary.p95, hmedian, hp95, head?_fastest, head?_slowest]
  refine ⟨hranking.mem_times hmiddle, hranking.mem_times hlate, first, last, hfirst, hlast, ?_, ?_, ?_⟩
  · exact hranking.noSlower hfirst hmiddle (Nat.zero_le _)
  · exact hranking.noSlower hmiddle hlate (by omega)
  · exact hranking.noSlower hlate hlast (fraction_le (by decide) _)

/-- Three templates that took equally long. -/
def equalTimings : List Timing :=
  [⟨"cisco_ios_first.textfsm", "first", 1.0, 1⟩, ⟨"cisco_ios_second.textfsm", "second", 1.0, 1⟩,
    ⟨"cisco_ios_third.textfsm", "third", 1.0, 1⟩]

theorem summary_ranking_equal :
    Statistics.fastest { timings := equalTimings } = equalTimings ∧
    Statistics.slowest { timings := equalTimings } = equalTimings.reverse ∧
    Summary.median ⟨none, { timings := equalTimings }⟩ ∈ equalTimings.map (·.elapsed) := by
  obtain ⟨⟨order, horder, hfastest, _, _⟩, _, _, hreverse, hpercentiles⟩ :=
    summary_ranking ⟨none, { timings := equalTimings }⟩
  have hrank : ∀ t ∈ equalTimings, decide (rank t.elapsed = rank 1.0) = true := by decide
  have horder' : order = equalTimings := by
    rw [← List.filter_eq_self.mpr hrank, ← horder.stable]
    exact (List.filter_eq_self.mpr fun t ht => hrank t (horder.perm.subset ht)).symm
  have hfirst : Statistics.fastest { timings := equalTimings } = equalTimings := by
    rw [hfastest, horder']
    rfl
  refine ⟨hfirst, ?_, (hpercentiles (by decide)).1⟩
  rw [hreverse (by decide), hfirst]

end TemplateBench
