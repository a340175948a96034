import PutGateway.Web.LogReader
/-!
# Following the cursor

A client asks for a page, and then for the page at the cursor of the answer
as long as there is one. For every list of lines, every pair of filters and
every limit in each request the client comes to an end, and the pages are
the matching lines, each once and in order (`followPages_complete`).

The loop counts matching lines from the newest: a page is a piece of the
matching lines read backwards, from the cursor on (`pageLogLines_eq`), and
the cursor it gives is where the next piece begins.
-/

namespace PutGateway

namespace Web

variable {source levelFilter keywordFilter : String} {cursor limit : ℕ}
  {xs : List (String × ℕ)} {state : PageState}

/-! ## One page -/

/-- The matching lines among lines with their indices. -/
def matchesOf (source levelFilter keywordFilter : String) (xs : List (String × ℕ)) :
    List LogLine :=
  (xs.filter fun entry => matchesFilters entry.1 levelFilter keywordFilter).map (logLine source)

/-- **The loop** skips to the cursor, takes up to the limit, and sees
whether anything is left. -/
theorem pageFrom_eq (hlimit : state.lines.length ≤ limit) (hmore : state.hasMore = false) :
    (pageFrom source levelFilter keywordFilter cursor limit xs state).lines =
        state.lines ++ ((matchesOf source levelFilter keywordFilter xs).drop
          (cursor - state.skipped)).take (limit - state.lines.length) ∧
      (pageFrom source levelFilter keywordFilter cursor limit xs state).hasMore =
        decide (cursor - state.skipped + (limit - state.lines.length) <
          (matchesOf source levelFilter keywordFilter xs).length) := by
  induction xs generalizing state with
  | nil => simp [pageFrom, matchesOf, hmore]
  | cons entry rest ih =>
    rw [pageFrom]
    by_cases hmatch : matchesFilters entry.1 levelFilter keywordFilter = true
    · have hcons : matchesOf source levelFilter keywordFilter (entry :: rest) =
          logLine source entry :: matchesOf source levelFilter keywordFilter rest := by
        simp [matchesOf, hmatch]
      rw [if_neg (by simpa using hmatch), hcons, List.length_cons]
      by_cases hskip : state.skipped < cursor
      · rw [if_pos hskip]
        obtain ⟨hlines, hmore'⟩ := @ih { state with skipped := state.skipped + 1 } hlimit hmore
        obtain ⟨d, hd⟩ : ∃ d, cursor - state.skipped = d + 1 := ⟨cursor - state.skipped - 1, by omega⟩
        have hd' : cursor - (state.skipped + 1) = d := by omega
        simp only [hd'] at hlines hmore'
        rw [hlines, hmore', hd, List.drop_succ_cons]
        exact ⟨rfl, decide_eq_decide.mpr (by omega)⟩
      · rw [if_neg hskip]
        -- past the cursor: matches are collected until the page is full
        have hd : cursor - state.skipped = 0 := by omega
        rw [hd, List.drop_zero]
        by_cases hfull : state.lines.length ≥ limit
        · rw [if_pos hfull]
          have hroom : limit - state.lines.length = 0 := by omega
          rw [hroom]
          simp
        · rw [if_neg hfull]
          obtain ⟨hlines, hmore'⟩ := @ih { state with lines := state.lines ++ [logLine source entry] }
            (by simp; omega) hmore
          obtain ⟨room, hroom⟩ : ∃ room, limit - state.lines.length = room + 1 :=
            ⟨limit - state.lines.length - 1, by omega⟩
          have hroom' : limit - (state.lines.length + 1) = room := by omega
          simp only [List.length_append, List.length_singleton, hroom', hd, List.drop_zero]
            at hlines hmore'
          rw [hlines, hmore', hroom, List.take_succ_cons, List.append_assoc, List.singleton_append]
          exact ⟨rfl, decide_eq_decide.mpr (by omega)⟩
    · have hcons : matchesOf source levelFilter keywordFilter (entry :: rest) =
          matchesOf source levelFilter keywordFilter rest := by
        simp [matchesOf, hmatch]
      rw [if_pos (by simpa using hmatch), hcons]
      exact ih hlimit hmore

section Matching

variable (source : String) (rawLines : Slice String) (level keyword : String)

/-- The matching lines of a file, in file order. -/
def matchingLines : List LogLine :=
  matchesOf source (toAsciiLowercase (trim level)) (toAsciiLowercase (trim keyword))
    rawLines.items.zipIdx

theorem mem_matchingLines {line : LogLine} :
    line ∈ matchingLines source rawLines level keyword ↔
      ∃ i text, rawLines.items[i]? = some text ∧
        matchesFilters text (toAsciiLowercase (trim level)) (toAsciiLowercase (trim keyword)) =
          true ∧
        line = logLine source (text, i) := by
  simp only [matchingLines, matchesOf, List.mem_map, List.mem_filter, Prod.exists,
    List.mem_zipIdx_iff_getElem?]
  constructor
  · rintro ⟨text, i, ⟨hraw, hmatch⟩, hline⟩
    exact ⟨i, text, hraw, hmatch, hline.symm⟩
  · rintro ⟨i, text, hraw, hmatch, hline⟩
    exact ⟨text, i, ⟨hraw, hmatch⟩, hline.symm⟩

/-- The matching lines are in the order of their numbers. -/
theorem matchingLines_sorted :
    (matchingLines source rawLines level keyword).Pairwise (·.lineNumber < ·.lineNumber) := by
  have hindices : (rawLines.items.zipIdx.map Prod.snd).Pairwise (· < ·) := by
    rw [List.zipIdx_map_snd]
    exact List.pairwise_lt_range'
  have hentries := (List.pairwise_map.mp hindices).filter fun entry =>
    matchesFilters entry.1 (toAsciiLowercase (trim level)) (toAsciiLowercase (trim keyword))
  exact hentries.map _ fun a b hab => Nat.succ_lt_succ hab

theorem length_matchingLines_le :
    (matchingLines source rawLines level keyword).length ≤ rawLines.items.length := by
  rw [matchingLines, matchesOf, List.length_map]
  exact (List.length_filter_le _ _).trans_eq List.length_zipIdx

/-- **A page is a piece of the matching lines**, cut from the newest. -/
theorem pageLogLines_eq (cursor : String) (limit : ℕ) {k l : ℕ}
    (hcursor : (parseUsize cursor).getD 0 = k) (hlimit : max 1 (min limit 500) = l) :
    pageLogLines source rawLines
        { source := source, level := level, keyword := keyword, cursor := cursor, limit := limit } =
      { source := source
        lines := (((matchingLines source rawLines level keyword).reverse.drop k).take l).reverse
        nextCursor :=
          if k + l < (matchingLines source rawLines level keyword).length then
            some (toString (k + l)) else none
        hasMore := decide (k + l < (matchingLines source rawLines level keyword).length) } := by
  have hmatches : matchesOf source (toAsciiLowercase (trim level))
      (toAsciiLowercase (trim keyword)) rawLines.items.zipIdx.reverse =
      (matchingLines source rawLines level keyword).reverse := by
    simp only [matchingLines, matchesOf, List.filter_reverse, List.map_reverse]
  obtain ⟨hlines, hmore⟩ := @pageFrom_eq source (toAsciiLowercase (trim level))
    (toAsciiLowercase (trim keyword)) k l rawLines.items.zipIdx.reverse {} (Nat.zero_le l) rfl
  rw [hmatches] at hlines hmore
  simp only [List.nil_append, List.length_nil, Nat.sub_zero, List.length_reverse] at hlines hmore
  simp only [pageLogLines, hcursor, hlimit, hlines, hmore, decide_eq_true_eq]
  congr 1
  split
  · -- a page with more behind it is full
    have hfull : min l ((matchingLines source rawLines level keyword).length - k) = l := by omega
    rw [List.length_take, List.length_drop, List.length_reverse, hfull]
  · rfl

end Matching

/-! ## The cursor -/

/-- **A cursor is read as it was written.** -/
theorem parseUsize_toString {n : ℕ} (hn : n < 2 ^ 64) : parseUsize (toString n) = some n := by
  have hdigits : (toString n).toList = Nat.toDigits 10 n := Nat.toList_repr
  have hall : (Nat.toDigits 10 n).all Char.isDigit = true :=
    List.all_eq_true.mpr fun _ => Nat.isDigit_of_mem_toDigits (by decide) (by decide)
  have hsign : (Nat.toDigits 10 n).head? ≠ some '+' := by
    intro hhead
    have hplus := List.all_eq_true.mp hall '+' (List.mem_of_head? hhead)
    exact absurd hplus (by decide)
  simp only [parseUsize, hdigits, if_neg hsign, Nat.ofDigitChars_ten_toDigits, hall]
  rw [if_pos (by simpa [Nat.toDigits_ne_nil] using hn)]

/-! ## All pages -/

/-- Follow the cursor, with a limit for each request; a client gives up
after so many requests. -/
def followPages (source : String) (rawLines : Slice String) (level keyword : String) :
    ℕ → (ℕ → ℕ) → String → Option (List LogsResponse)
  | 0, _, _ => none
  | requests + 1, limits, cursor =>
    let page := pageLogLines source rawLines
      { source := source, level := level, keyword := keyword, cursor := cursor, limit := limits 0 }
    match page.nextCursor with
    | none => some [page]
    | some next =>
      (followPages source rawLines level keyword requests (fun i => limits (i + 1)) next).map
        (page :: ·)

section Follow

variable {source : String} {rawLines : Slice String} {level keyword : String}

/-- A page says whether an older line is left. -/
def LogsResponse.Tells (matching : List LogLine) (page : LogsResponse) : Prop :=
  page.hasMore = true ↔
    ∃ line ∈ matching, ∀ shown ∈ page.lines, line.lineNumber < shown.lineNumber

/-- Of sorted lines read backwards, those behind a piece are the older
ones. -/
theorem exists_older_iff {matching : List LogLine}
    (hsorted : matching.Pairwise (·.lineNumber < ·.lineNumber)) {k l : ℕ}
    (hk : k < matching.length ∨ matching = []) :
    k + l < matching.length ↔
      ∃ line ∈ matching, ∀ shown ∈ ((matching.reverse.drop k).take l).reverse,
        line.lineNumber < shown.lineNumber := by
  have hback : matching.reverse.Pairwise (fun a b => b.lineNumber < a.lineNumber) :=
    List.pairwise_reverse.mpr hsorted
  rw [List.pairwise_iff_getElem] at hback
  constructor
  · intro hmore
    have hidx : k + l < matching.reverse.length := by rw [List.length_reverse]; exact hmore
    refine ⟨matching.reverse[k + l], List.mem_reverse.mp (List.getElem_mem hidx), ?_⟩
    intro shown hshown
    rw [List.mem_reverse, List.mem_iff_getElem] at hshown
    obtain ⟨i, hi, rfl⟩ := hshown
    rw [List.length_take, List.length_drop] at hi
    rw [List.getElem_take, List.getElem_drop]
    exact hback _ _ _ _ (by omega)
  · rintro ⟨line, hline, holder⟩
    by_contra hend
    rcases hk with hk | hnil
    swap
    · rw [hnil] at hline
      cases hline
    -- the piece goes to the end, so the line is in it or is newer than all of it
    rw [← List.mem_reverse, List.mem_iff_getElem] at hline
    obtain ⟨j, hj, rfl⟩ := hline
    have hlen : matching.reverse.length = matching.length := List.length_reverse
    have hshown : ∀ i (hi : i < matching.reverse.length), k ≤ i →
        matching.reverse[i] ∈ ((matching.reverse.drop k).take l).reverse := by
      intro i hi hki
      rw [List.mem_reverse, List.take_of_length_le (by rw [List.length_drop]; omega),
        List.mem_iff_getElem]
      refine ⟨i - k, by rw [List.length_drop]; omega, ?_⟩
      rw [List.getElem_drop]
      congr 1
      omega
    rcases Nat.lt_or_ge j k with hjk | hjk
    · have hnewer := hback j k hj (by omega) hjk
      have hless := holder _ (hshown k (by omega) (Nat.le_refl k))
      omega
    · exact absurd (holder _ (hshown j hj hjk)) (Nat.lt_irrefl _)

/-- **Following the cursor** from one that is not at the end. -/
theorem followPages_spec (requests : ℕ) :
    ∀ (limits : ℕ → ℕ) (cursor : String) (k : ℕ), (parseUsize cursor).getD 0 = k →
      (k < (matchingLines source rawLines level keyword).length ∨
        matchingLines source rawLines level keyword = []) →
      (matchingLines source rawLines level keyword).length - k < requests →
      ∃ pages, followPages source rawLines level keyword requests limits cursor = some pages ∧
        (pages.map (·.lines)).reverse.flatten =
          ((matchingLines source rawLines level keyword).reverse.drop k).reverse ∧
        ∀ page ∈ pages, page.Tells (matchingLines source rawLines level keyword) := by
  induction requests with
  | zero => exact fun _ _ _ _ _ hlt => absurd hlt (Nat.not_lt_zero _)
  | succ requests ih =>
    intro limits cursor k hcursor hk hrequests
    have hpage := pageLogLines_eq source rawLines level keyword cursor (limits 0) hcursor rfl
    have htells := fun l => @exists_older_iff _ (matchingLines_sorted source rawLines level keyword)
      k l hk
    have hl : 1 ≤ max 1 (min (limits 0) 500) := Nat.le_max_left _ _
    have hlength := length_matchingLines_le source rawLines level keyword
    have hbound := rawLines.length_lt
    have hnext := ih (fun i => limits (i + 1))
    generalize max 1 (min (limits 0) 500) = l at hpage hl
    generalize matchingLines source rawLines level keyword = matching at *
    rw [followPages]
    simp only [hpage]
    by_cases hmore : k + l < matching.length
    · simp only [if_pos hmore]
      -- the next cursor is printed, and parses back
      have hround : (parseUsize (toString (k + l))).getD 0 = k + l := by
        rw [parseUsize_toString (by omega), Option.getD_some]
      obtain ⟨pages, hfollow, hlines, hpages⟩ := hnext _ _ hround (.inl hmore) (by omega)
      rw [hfollow]
      refine ⟨_, rfl, ?_, ?_⟩
      · rw [List.map_cons, List.reverse_cons, List.flatten_append, hlines, List.flatten_singleton,
          ← List.reverse_append, ← List.drop_drop, List.take_append_drop]
      · rw [List.forall_mem_cons]
        refine ⟨?_, hpages⟩
        simpa [LogsResponse.Tells] using htells l
    · simp only [if_neg hmore]
      refine ⟨_, rfl, ?_, ?_⟩
      · rw [List.map_singleton, List.reverse_singleton, List.flatten_singleton,
          List.take_of_length_le (by rw [List.length_drop, List.length_reverse]; omega)]
      · rw [List.forall_mem_singleton]
        simpa [LogsResponse.Tells] using htells l

/-- **Log paging is complete.** For every list of lines, filters, and
limits, the client that starts without a cursor gets to a page without a
next cursor. The pages, newest first, hold the matching lines, each once,
under its number and in file order within a page, and each says whether an
older matching line is left. -/
theorem followPages_complete (source : String) (rawLines : Slice String) (level keyword : String)
    (limits : ℕ → ℕ) :
    ∃ requests pages,
      followPages source rawLines level keyword requests limits "" = some pages ∧
      (pages.map (·.lines)).reverse.flatten = matchingLines source rawLines level keyword ∧
      (matchingLines source rawLines level keyword).Pairwise (·.lineNumber < ·.lineNumber) ∧
      (∀ line, line ∈ matchingLines source rawLines level keyword ↔
        ∃ i text, rawLines.items[i]? = some text ∧
          matchesFilters text (toAsciiLowercase (trim level)) (toAsciiLowercase (trim keyword)) =
            true ∧
          line = { lineNumber := i + 1, source := source, level := detectLevel text, text := text }) ∧
      ∀ page ∈ pages, page.lines.Pairwise (·.lineNumber < ·.lineNumber) ∧
        (page.hasMore = true ↔ ∃ line ∈ matchingLines source rawLines level keyword,
          ∀ shown ∈ page.lines, line.lineNumber < shown.lineNumber) := by
  have hstart : 0 < (matchingLines source rawLines level keyword).length ∨
      matchingLines source rawLines level keyword = [] := by
    cases matchingLines source rawLines level keyword with
    | nil => exact .inr rfl
    | cons line lines => exact .inl (Nat.succ_pos _)
  obtain ⟨pages, hfollow, hlines, hpages⟩ := followPages_spec _ limits "" 0 rfl hstart
    (Nat.lt_succ_self _)
  rw [List.drop_zero, List.reverse_reverse] at hlines
  have hsorted := matchingLines_sorted source rawLines level keyword
  refine ⟨_, pages, hfollow, hlines, hsorted, fun line => mem_matchingLines _ _ _ _,
    fun page hpage => ⟨?_, hpages page hpage⟩⟩
  rw [← hlines] at hsorted
  refine hsorted.sublist ?_
  have hmem : page.lines ∈ (pages.map (·.lines)).reverse :=
    List.mem_reverse.mpr (List.mem_map.mpr ⟨page, hpage, rfl⟩)
  exact List.sublist_flatten_of_mem hmem

end Follow

end Web

end PutGateway
