import PutGateway.Lib.OrderStatistics
import PutGateway.Lib.SlidingWindow
import PutGateway.Rtos.Monitor
/-!
# What the latency statistics say

`rtos_monitor_record_latency` puts a sample into the window of all frames
and into that of its priority. After any number of calls a window holds
the last 32 samples of its history, or all of them while there are fewer,
and the statistics of the history are its nearest-rank percentiles and the
greatest sample of all (`rtosMonitorRecordLatency_summarises`). The index
of a window is a 32-bit counter; it wraps at a multiple of 32, so the slot
it gives is the right one for ever.
-/

namespace PutGateway

namespace Rtos

open OrderStatistics SlidingWindow

/-- `RTOS_FIRMWARE_LATENCY_WINDOW_CAPACITY`. -/
def latencyWindowCapacity : ℕ := 32

variable {w : LatencyWindow} {s : LatencyStatistics} {history : List UInt32}

/-! ## The window -/

/-- A window that has been given the samples of a history. -/
structure LatencyWindow.Tracks (w : LatencyWindow) (history : List UInt32) : Prop where
  holds : Holds w.samples history
  count : w.count.toNat = min history.length latencyWindowCapacity
  index : w.index = UInt32.ofNat history.length

theorem LatencyWindow.tracks_nil : LatencyWindow.Tracks {} [] := ⟨Holds.nil, rfl, rfl⟩

theorem LatencyWindow.Tracks.add (h : w.Tracks history) (latencyMs : UInt32) :
    (w.add latencyMs).Tracks (history ++ [latencyMs]) := by
  have hcap : latencyWindowCapacity = 32 := rfl
  -- 2^32 is a multiple of 32: the index may wrap round
  have hslot : Fin.ofNat 32 (w.index % 32).toNat = Fin.ofNat 32 history.length := by
    refine Fin.ext ?_
    have h32 : (32 : UInt32).toNat = 32 := rfl
    show (w.index % 32).toNat % 32 = history.length % 32
    rw [h.index, UInt32.toNat_mod, UInt32.toNat_ofNat', h32]
    omega
  have hlen : (history ++ [latencyMs]).length = history.length + 1 := List.length_append
  refine ⟨?_, ?_, ?_⟩
  · show Holds (Function.update w.samples (Fin.ofNat 32 (w.index % 32).toNat) latencyMs) _
    rw [hslot]
    exact h.holds.push latencyMs
  · show (if w.count < 32 then w.count + 1 else w.count).toNat = _
    have hcount := h.count
    have h32 : (32 : UInt32).toNat = 32 := rfl
    have h1 : (1 : UInt32).toNat = 1 := rfl
    rw [hlen]
    split
    · next hlt =>
      rw [UInt32.lt_iff_toNat_lt] at hlt
      rw [UInt32.toNat_add]
      omega
    · next hge =>
      rw [UInt32.lt_iff_toNat_lt] at hge
      omega
  · show w.index + 1 = _
    rw [h.index, hlen, UInt32.ofNat_add]
    rfl

/-! ## The statistics -/

/-- The statistics of a history of samples. -/
structure LatencyStatistics.Summarises (s : LatencyStatistics) (history : List UInt32) : Prop where
  p95 : history ≠ [] → IsNearestRank 95 (last latencyWindowCapacity history) s.p95Ms
  p99 : history ≠ [] → IsNearestRank 99 (last latencyWindowCapacity history) s.p99Ms
  max_mem : history ≠ [] → s.maxMs ∈ history
  max_le : ∀ x ∈ history, x ≤ s.maxMs
  ordered : s.p95Ms ≤ s.p99Ms ∧ s.p99Ms ≤ s.maxMs

/-- The entry a rank picks from the sorted samples. -/
theorem getD_rank {samples : List UInt32} (hs : samples.Pairwise (· ≤ ·)) {percent : ℕ}
    (hp : 0 < percent) (hp' : percent ≤ 100) (hn : 0 < samples.length) :
    IsNearestRank percent samples (samples.getD (min ((samples.length * percent + 99) / 100 - 1)
      (samples.length - 1)) 0) := by
  have hrank : rank percent samples.length = (samples.length * percent + 99) / 100 := by
    rw [rank, Nat.ceilDiv_eq_add_pred_div, Nat.mul_comm]
    rfl
  have hpos := rank_pos hp hn
  have hle := rank_le hp' samples.length
  rw [hrank] at hpos hle
  have hi : min ((samples.length * percent + 99) / 100 - 1) (samples.length - 1) <
      samples.length := by omega
  rw [List.getD_eq_getElem?_getD, List.getElem?_eq_getElem hi, Option.getD_some]
  exact isNearestRank_sorted hs hi (by rw [hrank]; omega)

/-- **The refresh finds the percentiles** of the last samples. -/
theorem LatencyWindow.Tracks.refresh (h : w.Tracks history) (hne : history ≠ [])
    (s : LatencyStatistics) :
    IsNearestRank 95 (last latencyWindowCapacity history)
        (refreshLatencyPercentiles w.samples w.count s).p95Ms ∧
      IsNearestRank 99 (last latencyWindowCapacity history)
        (refreshLatencyPercentiles w.samples w.count s).p99Ms ∧
      (refreshLatencyPercentiles w.samples w.count s).maxMs = s.maxMs := by
  have hcap : latencyWindowCapacity = 32 := rfl
  have hcount := h.count
  have hpos : 0 < history.length := List.length_pos_iff.mpr hne
  have hfilled : w.count ≠ 0 := by
    rintro hzero
    rw [hzero, UInt32.toNat_zero] at hcount
    omega
  have hn : min w.count.toNat 32 = min history.length 32 := by omega
  unfold refreshLatencyPercentiles
  rw [if_neg hfilled]
  simp only [hn]
  -- the copy that is sorted holds the last samples, in some order
  have hperm := (List.perm_insertionSort (· ≤ ·)
    ((List.ofFn w.samples).take (min history.length 32))).trans h.holds.perm
  have hsorted := List.pairwise_insertionSort (· ≤ ·)
    ((List.ofFn w.samples).take (min history.length 32))
  have hlen : (((List.ofFn w.samples).take (min history.length 32)).insertionSort
      (· ≤ ·)).length = min history.length 32 := by
    rw [hperm.length_eq, length_last]
  generalize ((List.ofFn w.samples).take (min history.length 32)).insertionSort (· ≤ ·) = sorted
    at hperm hsorted hlen ⊢
  rw [← hlen]
  have hsome : 0 < sorted.length := by omega
  exact ⟨(getD_rank hsorted (by decide) (by decide) hsome).perm hperm,
    (getD_rank hsorted (by decide) (by decide) hsome).perm hperm, trivial⟩

/-! ### The loops of the refresh -/

/-- The index of a percentile, as it is computed. -/
def percentileIndex (sampleCount percent : ℕ) : ℕ :=
  let index := (sampleCount * percent + 99) / 100
  let index := if index > 0 then index - 1 else index
  if index ≥ sampleCount then sampleCount - 1 else index

/-- `refresh_latency_percentiles` with its loops, which sort a copy of the
samples in place. -/
def refreshLatencyPercentilesInPlace (samples : Fin 32 → UInt32) (sampleCount : UInt32)
    (latency : LatencyStatistics) : LatencyStatistics :=
  if sampleCount = 0 then latency
  else
    let n := if sampleCount > 32 then 32 else sampleCount.toNat
    let sorted := sortInPlace n fun k => samples (Fin.ofNat 32 k)
    { latency with p95Ms := sorted (percentileIndex n 95), p99Ms := sorted (percentileIndex n 99) }

/-- **The loops compute what the monitor is modelled with.** -/
theorem refreshLatencyPercentiles_eq (samples : Fin 32 → UInt32) (sampleCount : UInt32)
    (latency : LatencyStatistics) :
    refreshLatencyPercentiles samples sampleCount latency =
      refreshLatencyPercentilesInPlace samples sampleCount latency := by
  unfold refreshLatencyPercentiles refreshLatencyPercentilesInPlace
  by_cases hzero : sampleCount = 0
  · rw [if_pos hzero, if_pos hzero]
  have hpos : 0 < sampleCount.toNat := Nat.pos_of_ne_zero fun h => hzero (UInt32.toNat_inj.mp h)
  have hn : (if sampleCount > 32 then 32 else sampleCount.toNat) = min sampleCount.toNat 32 := by
    have h32 : (32 : UInt32).toNat = 32 := rfl
    split
    · next hgt =>
      rw [gt_iff_lt, UInt32.lt_iff_toNat_lt] at hgt
      omega
    · next hle =>
      rw [gt_iff_lt, UInt32.lt_iff_toNat_lt] at hle
      omega
  rw [if_neg hzero, if_neg hzero]
  simp only [hn]
  have hn0 : 0 < min sampleCount.toNat 32 := by omega
  generalize hlen : min sampleCount.toNat 32 = n at hn0
  -- the insertion sort of the source is that of the list
  have hsorted : ((List.ofFn samples).take n).insertionSort (· ≤ ·) =
      upTo n (sortInPlace n fun k => samples (Fin.ofNat 32 k)) := by
    rw [upTo_sortInPlace]
    congr 1
    refine List.ext_getElem ?_ fun k hk hk' => ?_
    · rw [List.length_take, List.length_ofFn, upTo, List.length_map, List.length_range]
      omega
    · rw [List.length_take, List.length_ofFn] at hk
      simp only [List.getElem_take, List.getElem_ofFn, upTo, List.getElem_map, List.getElem_range]
      congr 1
      exact Fin.ext (Nat.mod_eq_of_lt (by omega)).symm
  -- the two guards on the index are a minimum
  have hindex : ∀ percent, min ((n * percent + 99) / 100 - 1) (n - 1) = percentileIndex n percent := by
    intro percent
    unfold percentileIndex
    simp only
    split_ifs <;> omega
  have hentry : ∀ i < n, (upTo n (sortInPlace n fun k => samples (Fin.ofNat 32 k))).getD i 0 =
      sortInPlace n (fun k => samples (Fin.ofNat 32 k)) i := by
    intro i hi
    rw [List.getD_eq_getElem?_getD, List.getElem?_eq_getElem (by simpa [upTo] using hi),
      Option.getD_some]
    simp [upTo]
  have hin : ∀ percent, percentileIndex n percent < n := by
    intro percent
    rw [← hindex]
    omega
  rw [hsorted, hindex, hindex, hentry _ (hin 95), hentry _ (hin 99)]

/-! ### A sample more -/

/-- A window and its statistics, given the samples of a history. -/
structure Recorded (w : LatencyWindow) (s : LatencyStatistics) (history : List UInt32) : Prop where
  tracks : w.Tracks history
  summarises : s.Summarises history
  fresh : history = [] → s = {}

theorem recorded_nil : Recorded {} {} [] where
  tracks := LatencyWindow.tracks_nil
  summarises := ⟨fun h => absurd rfl h, fun h => absurd rfl h, fun h => absurd rfl h,
    fun _ hx => absurd hx List.not_mem_nil, UInt32.le_refl 0, UInt32.le_refl 0⟩
  fresh _ := rfl

/-- **A call keeps a window and its statistics right.** -/
theorem Recorded.add (h : Recorded w s history) (latencyMs : UInt32) :
    Recorded (w.add latencyMs) (s.add (w.add latencyMs) latencyMs) (history ++ [latencyMs]) := by
  have hne : history ++ [latencyMs] ≠ [] := by simp
  have htracks := h.tracks.add latencyMs
  have hmax : max latencyMs s.maxMs = if latencyMs ≤ s.maxMs then s.maxMs else latencyMs := rfl
  obtain ⟨hp95, hp99, hkept⟩ := htracks.refresh hne
    { s with count := s.count + 1, maxMs := max latencyMs s.maxMs }
  change (s.add (w.add latencyMs) latencyMs).maxMs = max latencyMs s.maxMs at hkept
  have hle : ∀ x ∈ history ++ [latencyMs], x ≤ (s.add (w.add latencyMs) latencyMs).maxMs := by
    intro x hx
    rw [hkept, hmax]
    rcases List.mem_append.mp hx with hx | hx
    · have hxs := h.summarises.max_le x hx
      split
      · exact hxs
      · next hlt => exact UInt32.le_trans hxs (UInt32.le_of_lt (UInt32.not_le.mp hlt))
    · obtain rfl := List.mem_singleton.mp hx
      split
      · next hxs => exact hxs
      · exact UInt32.le_refl _
  have hmem : (s.add (w.add latencyMs) latencyMs).maxMs ∈ history ++ [latencyMs] := by
    rw [hkept, hmax]
    split
    · next hxs =>
      by_cases hnil : history = []
      · -- the first sample, which is not above the zero before it
        have hzero : s.maxMs = 0 := by rw [h.fresh hnil]
        rw [hzero] at hxs ⊢
        rw [UInt32.le_zero_iff.mp hxs]
        simp
      · exact List.mem_append_left _ (h.summarises.max_mem hnil)
    · exact List.mem_append_right _ (List.mem_singleton_self _)
  refine ⟨htracks, ⟨fun _ => hp95, fun _ => hp99, fun _ => hmem, hle, ?_, ?_⟩,
    fun hnil => absurd hnil hne⟩
  · exact hp95.mono hp99 (by decide)
  · exact hle _ (last_subset _ _ hp99.mem)

/-! ## Runs -/

/-- Calls of `rtos_monitor_record_latency`, from
`rtos_monitor_context_init`. -/
def recordLatencies (calls : List (UInt8 × UInt32)) : MonitorContext :=
  calls.foldl (fun monitor call => rtosMonitorRecordLatency monitor call.1 call.2) {}

/-- The latencies of the calls with a priority. -/
def latenciesOf (priority : Fin 4) (calls : List (UInt8 × UInt32)) : List UInt32 :=
  (calls.filter fun call => call.1.toNat == (priority : ℕ)).map Prod.snd

theorem recordLatencies_concat (calls : List (UInt8 × UInt32)) (call : UInt8 × UInt32) :
    recordLatencies (calls ++ [call]) =
      rtosMonitorRecordLatency (recordLatencies calls) call.1 call.2 := by
  simp [recordLatencies, List.foldl_append]

/-- The windows and statistics of a monitor. -/
structure MonitorContext.LatencyRecorded (monitor : MonitorContext)
    (calls : List (UInt8 × UInt32)) : Prop where
  total : Recorded monitor.latencyTotal monitor.statistics.latencyTotal (calls.map Prod.snd)
  byPriority : ∀ p, Recorded (monitor.latencyByPriority p) (monitor.statistics.latencyByPriority p)
    (latenciesOf p calls)

/-- A call adds its sample to the window of all frames and to that of its
priority, if it has one. -/
theorem MonitorContext.LatencyRecorded.record {monitor : MonitorContext}
    {calls : List (UInt8 × UInt32)} (h : monitor.LatencyRecorded calls) (call : UInt8 × UInt32) :
    (rtosMonitorRecordLatency monitor call.1 call.2).LatencyRecorded (calls ++ [call]) := by
  have htotal := h.total.add call.2
  rw [← List.map_singleton (f := Prod.snd), ← List.map_append] at htotal
  have hother : ∀ p : Fin 4, call.1.toNat ≠ p →
      latenciesOf p (calls ++ [call]) = latenciesOf p calls := by
    intro p hp
    simp [latenciesOf, List.filter_append, hp]
  unfold rtosMonitorRecordLatency
  simp only
  split
  · next hlt =>
    refine ⟨htotal, fun p => ?_⟩
    by_cases hp : p = ⟨call.1.toNat, hlt⟩
    · subst hp
      have hsame : latenciesOf ⟨call.1.toNat, hlt⟩ (calls ++ [call]) =
          latenciesOf ⟨call.1.toNat, hlt⟩ calls ++ [call.2] := by
        simp [latenciesOf, List.filter_append]
      simp only [Function.update_self]
      rw [hsame]
      exact (h.byPriority _).add call.2
    · simp only [Function.update_of_ne hp]
      rw [hother p fun heq => hp (Fin.ext heq.symm)]
      exact h.byPriority p
  · next hge =>
    refine ⟨htotal, fun p => ?_⟩
    rw [hother p fun heq => hge (heq ▸ p.isLt)]
    exact h.byPriority p

theorem recordLatencies_recorded (calls : List (UInt8 × UInt32)) :
    (recordLatencies calls).LatencyRecorded calls := by
  induction calls using List.reverseRecOn with
  | nil => exact ⟨recorded_nil, fun _ => recorded_nil⟩
  | append_singleton calls call ih =>
    rw [recordLatencies_concat]
    exact ih.record call

/-- **The statistics are those of the last samples.** After any calls the
percentiles of all frames, and those of each priority, are the
nearest-rank percentiles of the last 32 samples given, their maximum is
the greatest sample ever given, and the three are in order. -/
theorem rtosMonitorRecordLatency_summarises (calls : List (UInt8 × UInt32)) :
    (recordLatencies calls).statistics.latencyTotal.Summarises (calls.map Prod.snd) ∧
    ∀ p : Fin 4, ((recordLatencies calls).statistics.latencyByPriority p).Summarises
      (latenciesOf p calls) :=
  ⟨(recordLatencies_recorded calls).total.summarises,
    fun p => ((recordLatencies_recorded calls).byPriority p).summarises⟩

end Rtos

end PutGateway
