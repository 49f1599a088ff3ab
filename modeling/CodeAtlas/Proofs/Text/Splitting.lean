import CodeAtlas.Text.Blank

/-!
# Splitting and trimming

Splitting undoes joining when no piece has the separator (`splitAt_join`), and trimming changes
nothing when there is no white space at the ends (`trim_eq_self`). Lines trimmed together are one
line only if all but one of them are blank (`trim_unlines_eq_iff`). The runs of one character that a
text begins with can be taken off it and told apart from what follows (`run_append_inj`).
-/

namespace CodeAtlas.Text

variable {sep : Char} {s t : Text}

/-! ### Where a condition ends -/

section Condition

variable {α : Type} {p : α → Bool} {as bs : List α} (ha : ∀ a ∈ as, p a = true)
  (hb : ∀ b ∈ bs.head?, p b = false)

include ha hb

theorem takeWhile_append_of_head? : (as ++ bs).takeWhile p = as := by
  rw [List.takeWhile_append_of_pos ha]
  cases bs with
  | nil => exact List.append_nil as
  | cons b bs =>
    rw [List.takeWhile_cons_of_neg (Bool.eq_false_iff.mp (hb b rfl)), List.append_nil]

theorem dropWhile_append_of_head? : (as ++ bs).dropWhile p = bs := by
  rw [List.dropWhile_append_of_pos ha]
  cases bs with
  | nil => rfl
  | cons b bs => exact List.dropWhile_cons_of_neg (Bool.eq_false_iff.mp (hb b rfl))

end Condition

section Stop

variable {α : Type} {p : α → Bool} {a : α} (ha : p a = false) (as : List α)

include ha

theorem takeWhile_concat : (as ++ [a]).takeWhile p = as.takeWhile p := by
  induction as with
  | nil => simp [ha]
  | cons b as ih => by_cases hb : p b = true <;> simp [hb, ih]

theorem dropWhile_concat : (as ++ [a]).dropWhile p = as.dropWhile p ++ [a] := by
  induction as with
  | nil => simp [ha]
  | cons b as ih => by_cases hb : p b = true <;> simp [hb, ih]

end Stop

/-! ### Runs of one character -/

section Run

variable {c : Char} {n : Nat} (hs : ∀ d ∈ s.head?, d ≠ c)

include hs

theorem takeWhile_run : (List.replicate n c ++ s).takeWhile (· == c) = List.replicate n c :=
  takeWhile_append_of_head? (fun _ hd => beq_iff_eq.mpr (List.eq_of_mem_replicate hd))
    fun d hd => beq_eq_false_iff_ne.mpr (hs d hd)

theorem dropWhile_run : (List.replicate n c ++ s).dropWhile (· == c) = s :=
  dropWhile_append_of_head? (fun _ hd => beq_iff_eq.mpr (List.eq_of_mem_replicate hd))
    fun d hd => beq_eq_false_iff_ne.mpr (hs d hd)

/-- A run that goes as far as it can has a definite length. -/
theorem run_append_inj {m : Nat} (ht : ∀ d ∈ t.head?, d ≠ c)
    (h : List.replicate n c ++ s = List.replicate m c ++ t) : n = m ∧ s = t := by
  have hrun := congrArg (List.takeWhile (· == c)) h
  have hrest := congrArg (List.dropWhile (· == c)) h
  rw [takeWhile_run hs, takeWhile_run ht] at hrun
  rw [dropWhile_run hs, dropWhile_run ht] at hrest
  exact ⟨by simpa using congrArg List.length hrun, hrest⟩

end Run

/-- A text begins with a run of any character, which may be empty. -/
theorem run_append_dropWhile (c : Char) (s : Text) :
    List.replicate (s.takeWhile (· == c)).length c ++ s.dropWhile (· == c) = s := by
  have hrun : s.takeWhile (· == c) = List.replicate (s.takeWhile (· == c)).length c :=
    List.eq_replicate_of_mem fun _ hd => by simpa using List.all_eq_true.mp List.all_takeWhile _ hd
  rw [← hrun, List.takeWhile_append_dropWhile]

/-! ### Pieces -/

section Pieces

variable {α : Type} [DecidableEq α] {sep : α} {s : List α}

theorem splitAt_cons_self (s : List α) : splitAt sep (sep :: s) = [] :: splitAt sep s := by
  rw [splitAt, if_pos rfl]

theorem splitAt_cons_of_ne {c : α} (hc : c ≠ sep) {piece : List α} {pieces : List (List α)}
    (h : splitAt sep s = piece :: pieces) : splitAt sep (c :: s) = (c :: piece) :: pieces := by
  rw [splitAt, if_neg hc, h]

/-- The pieces before a separator and those after it. -/
theorem splitAt_append_cons (s t : List α) :
    splitAt sep (s ++ sep :: t) = splitAt sep s ++ splitAt sep t := by
  induction s with
  | nil => exact splitAt_cons_self t
  | cons c s ih =>
    by_cases hc : c = sep
    · rw [hc, List.cons_append, splitAt_cons_self, splitAt_cons_self, ih, List.cons_append]
    · obtain ⟨piece, pieces, hs⟩ := List.exists_cons_of_ne_nil (splitAt_ne_nil sep s)
      rw [hs, List.cons_append] at ih
      rw [splitAt_cons_of_ne hc hs]
      exact splitAt_cons_of_ne hc ih

theorem splitAt_eq_singleton (h : sep ∉ s) : splitAt sep s = [s] := by
  induction s with
  | nil => rfl
  | cons c s ih =>
    rw [List.mem_cons, not_or] at h
    exact splitAt_cons_of_ne (Ne.symm h.1) (ih h.2)

/-- Lists without the separator come back out of the list that they are joined to. -/
theorem splitAt_join {ls : List (List α)} (hne : ls ≠ []) (h : ∀ l ∈ ls, sep ∉ l) :
    splitAt sep (join [sep] ls) = ls := by
  induction ls with
  | nil => exact absurd rfl hne
  | cons l ls ih =>
    obtain ⟨hl, hls⟩ := List.forall_mem_cons.mp h
    cases ls with
    | nil => exact splitAt_eq_singleton hl
    | cons l' ls =>
      have hj : join [sep] (l :: l' :: ls) = l ++ sep :: join [sep] (l' :: ls) :=
        List.append_assoc ..
      rw [hj, splitAt_append_cons, splitAt_eq_singleton hl, ih (List.cons_ne_nil _ _) hls]
      rfl

/-- No piece has the separator. -/
theorem not_mem_of_mem_splitAt {piece : List α} (h : piece ∈ splitAt sep s) : sep ∉ piece := by
  induction s generalizing piece with
  | nil =>
    rw [List.mem_singleton.mp h]
    exact List.not_mem_nil
  | cons c s ih =>
    by_cases hc : c = sep
    · rw [hc, splitAt_cons_self] at h
      rcases List.mem_cons.mp h with rfl | h
      · exact List.not_mem_nil
      · exact ih h
    · obtain ⟨p, ps, hs⟩ := List.exists_cons_of_ne_nil (splitAt_ne_nil sep s)
      rw [hs] at ih
      rw [splitAt_cons_of_ne hc hs] at h
      rcases List.mem_cons.mp h with rfl | h
      · rw [List.mem_cons, not_or]
        exact ⟨Ne.symm hc, ih (List.mem_cons_self ..)⟩
      · exact ih (List.mem_cons_of_mem p h)

omit [DecidableEq α] in
/-- What stands in one of the lists stands in the list that they are joined to. -/
theorem mem_join {c : α} {l : List α} {ls : List (List α)} (hl : l ∈ ls) (hc : c ∈ l) :
    c ∈ join [sep] ls := by
  induction ls with
  | nil => cases hl
  | cons k ls ih =>
    cases ls with
    | nil => exact List.mem_singleton.mp hl ▸ hc
    | cons k' ls =>
      rw [join, List.append_assoc, List.mem_append]
      rcases List.mem_cons.mp hl with rfl | hl
      · exact .inl hc
      · exact .inr (List.mem_cons_of_mem _ (ih hl))

theorem mem_of_mem_splitAt {c : α} {piece : List α} (h : piece ∈ splitAt sep s) (hc : c ∈ piece) :
    c ∈ s := by
  rw [← join_splitAt sep s]
  exact mem_join h hc

end Pieces

theorem unlines_lines (s : Text) : unlines (lines s) = s := join_splitAt '\n' s

/-! ### Ends -/

theorem head?_join {l : Text} (hl : l ≠ []) (ls : List Text) :
    (join [sep] (l :: ls)).head? = l.head? := by
  cases ls with
  | nil => rfl
  | cons l' ls =>
    obtain ⟨c, l, rfl⟩ := List.exists_cons_of_ne_nil hl
    rfl

/-- A joined text ends like the last of the texts. -/
theorem getLast?_join {ls : List Text} {l : Text} (h : ls.getLast? = some l) (hl : l ≠ []) :
    (join [sep] ls).getLast? = l.getLast? := by
  induction ls with
  | nil => cases h
  | cons k ls ih =>
    cases ls with
    | nil =>
      cases h
      rfl
    | cons k' ls =>
      rw [List.getLast?_cons_cons] at h
      rw [join, List.getLast?_append, ih h, List.getLast?_eq_some_getLast hl]
      rfl

theorem trimStart_eq_self (h : ∀ c ∈ s.head?, isBlank c = false) : trimStart s = s :=
  dropWhile_append_of_head? (List.forall_mem_nil _) h

/-- A text without white space at its ends is trimmed already. -/
theorem trim_eq_self (hs : ∀ c ∈ s.head?, isBlank c = false)
    (ht : ∀ c ∈ s.getLast?, isBlank c = false) : trim s = s := by
  have hr : s.reverse.dropWhile isBlank = s.reverse :=
    trimStart_eq_self (List.head?_reverse ▸ ht)
  rw [trim, trimStart_eq_self hs, trimEnd, hr, List.reverse_reverse]

theorem trimStart_append_of_allBlank (h : allBlank s = true) :
    trimStart (s ++ t) = trimStart t :=
  List.dropWhile_append_of_pos fun c hc => List.all_eq_true.mp h c hc

theorem trimStart_append_of_not_allBlank (h : allBlank s ≠ true) :
    trimStart (s ++ t) = trimStart s ++ t := by
  have hs : trimStart s ≠ [] := fun hn => h ((trimStart_eq_nil_iff s).mp hn)
  unfold trimStart at hs ⊢
  rw [List.dropWhile_append, if_neg (by rwa [List.isEmpty_iff])]

theorem allBlank_reverse (s : Text) : allBlank s.reverse = allBlank s := List.all_reverse

theorem trimEnd_eq (s : Text) : trimEnd s = (trimStart s.reverse).reverse := rfl

theorem trimEnd_append_of_allBlank (h : allBlank t = true) : trimEnd (s ++ t) = trimEnd s := by
  rw [trimEnd_eq, List.reverse_append, trimStart_append_of_allBlank (allBlank_reverse t ▸ h),
    trimEnd_eq]

theorem trimEnd_append_of_not_allBlank (h : allBlank t ≠ true) :
    trimEnd (s ++ t) = s ++ trimEnd t := by
  rw [trimEnd_eq, List.reverse_append, trimStart_append_of_not_allBlank (allBlank_reverse t ▸ h),
    List.reverse_append, List.reverse_reverse, trimEnd_eq]

/-- Trimming takes only white space. -/
theorem mem_trim {c : Char} (hc : isBlank c = false) : c ∈ trim s ↔ c ∈ s := by
  have hstart (s : Text) : c ∈ trimStart s ↔ c ∈ s := by
    constructor
    · exact fun h => (List.dropWhile_sublist _).subset h
    · intro h
      rw [← List.takeWhile_append_dropWhile (p := isBlank) (l := s), List.mem_append] at h
      refine h.resolve_left fun ht => ?_
      have hb : isBlank c = true := List.all_eq_true.mp List.all_takeWhile c ht
      rw [hc] at hb
      cases hb
  rw [trim, trimEnd_eq, List.mem_reverse, hstart, List.mem_reverse, hstart]

/-! ### Lines trimmed together -/

theorem unlines_cons_cons (l k : Text) (ls : List Text) :
    unlines (l :: k :: ls) = l ++ '\n' :: unlines (k :: ls) := List.append_assoc ..

theorem mem_unlines {c : Char} {l : Text} {ls : List Text} (hl : l ∈ ls) (hc : c ∈ l) :
    c ∈ unlines ls := mem_join hl hc

/-- What stands in joined lines stands in one of them, the line ends between them apart. -/
theorem exists_mem_of_mem_unlines {c : Char} {ls : List Text} (h : c ∈ unlines ls) (hc : c ≠ '\n') :
    ∃ l ∈ ls, c ∈ l := by
  induction ls with
  | nil => cases h
  | cons k ls ih =>
    cases ls with
    | nil => exact ⟨k, List.mem_singleton_self k, h⟩
    | cons k' ls =>
      rw [unlines_cons_cons, List.mem_append, List.mem_cons] at h
      rcases h with hk | hn | hls
      · exact ⟨k, List.mem_cons_self .., hk⟩
      · exact absurd hn hc
      · obtain ⟨l, hl, hcl⟩ := ih hls
        exact ⟨l, List.mem_cons_of_mem k hl, hcl⟩

theorem allBlank_unlines (ls : List Text) : allBlank (unlines ls) = ls.all allBlank := by
  induction ls with
  | nil => rfl
  | cons l ls ih =>
    cases ls with
    | nil => exact (Bool.and_true _).symm
    | cons k ls =>
      rw [unlines_cons_cons, List.all_cons, ← ih, allBlank, List.all_append, List.all_cons]
      rfl

theorem trim_of_allBlank_line (h : allBlank s = true) : trim (s ++ '\n' :: t) = trim t := by
  have hn : allBlank ['\n'] = true := by decide
  rw [trim, trimStart_append_of_allBlank h]
  exact congrArg trimEnd (trimStart_append_of_allBlank hn)

theorem trim_of_allBlank_rest (h : allBlank t = true) : trim (s ++ '\n' :: t) = trim s := by
  have ht : allBlank ('\n' :: t) = true := by
    rw [allBlank, List.all_cons]
    exact h
  by_cases hs : allBlank s = true
  · have hst : allBlank (s ++ '\n' :: t) = true := by
      rw [allBlank, List.all_append, Bool.and_eq_true]
      exact ⟨hs, ht⟩
    rw [trim, trim, (trimStart_eq_nil_iff _).mpr hst, (trimStart_eq_nil_iff _).mpr hs]
  · rw [trim, trimStart_append_of_not_allBlank hs, trimEnd_append_of_allBlank ht, trim]

/-- Between two lines that are not blank the line end stays. -/
theorem newline_mem_trim (hs : allBlank s ≠ true) (ht : allBlank t ≠ true) :
    '\n' ∈ trim (s ++ '\n' :: t) := by
  have hn : allBlank ('\n' :: t) ≠ true := by
    rw [allBlank, List.all_cons]
    exact fun h => ht (Bool.and_eq_true_iff.mp h).2
  have hcut : '\n' :: t = ['\n'] ++ t := rfl
  rw [trim, trimStart_append_of_not_allBlank hs, trimEnd_append_of_not_allBlank hn, hcut,
    trimEnd_append_of_not_allBlank ht]
  simp

/-- Lines trimmed together are one line just when one of them alone is not blank, and trimmed is
that line. -/
theorem trim_unlines_eq_iff {ls : List Text} (hne : s ≠ []) (hs : '\n' ∉ s) :
    trim (unlines ls) = s ↔ (ls.filter fun l => !allBlank l).map trim = [s] := by
  induction ls with
  | nil => simp [unlines, join, trim, trimStart, trimEnd, hne.symm]
  | cons l ls ih =>
    have hkeep (hl : allBlank l ≠ true) (ms : List Text) :
        (l :: ms).filter (fun l => !allBlank l) = l :: ms.filter fun l => !allBlank l :=
      List.filter_cons_of_pos (by simpa using hl)
    have hdrop (hl : allBlank l = true) (ms : List Text) :
        (l :: ms).filter (fun l => !allBlank l) = ms.filter fun l => !allBlank l :=
      List.filter_cons_of_neg (by simp [hl])
    cases ls with
    | nil =>
      by_cases hl : allBlank l = true
      · have htrim : trim l = [] := by
          rw [trim, (trimStart_eq_nil_iff l).mpr hl]
          rfl
        simp [unlines, join, hl, htrim, hne.symm]
      · rw [hkeep hl]
        simp [unlines, join]
    | cons k ls =>
      rw [unlines_cons_cons]
      by_cases hl : allBlank l = true
      · rw [trim_of_allBlank_line hl, ih, hdrop hl]
      · rw [hkeep hl, List.map_cons]
        by_cases hrest : allBlank (unlines (k :: ls)) = true
        · have hnone : (k :: ls).filter (fun l => !allBlank l) = [] := by
            rw [allBlank_unlines, List.all_eq_true] at hrest
            exact List.filter_eq_nil_iff.mpr fun m hm => by simp [hrest m hm]
          rw [trim_of_allBlank_rest hrest, hnone]
          simp
        · have hsome : ((k :: ls).filter fun l => !allBlank l).map trim ≠ [] := by
            rw [allBlank_unlines, List.all_eq_true] at hrest
            rw [ne_eq, List.map_eq_nil_iff, List.filter_eq_nil_iff]
            exact fun h => hrest fun m hm => by simpa using h m hm
          refine ⟨fun h => absurd (h ▸ newline_mem_trim hl hrest) hs, fun h => ?_⟩
          exact absurd (List.cons.inj h).2 hsome

end CodeAtlas.Text
