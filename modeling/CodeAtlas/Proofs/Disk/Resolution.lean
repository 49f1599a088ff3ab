import CodeAtlas.Proofs.Disk.Listing
import CodeAtlas.Proofs.Text.Splitting

/-!
# Where a path leads

Components lead on from where the components before them have led (`walk_append_iff`), however
that place was reached. So the path of an entry leads to where its name leads from the directory
(`reaches_joinPath`), and of the path of the directory only its target has a part in that.
-/

namespace CodeAtlas.Disk

variable {d : Disk}

/-! ### Components one after another -/

/-- Being allowed more links changes nothing once the components have led somewhere. -/
theorem walk_mono {links more : Nat} {here loc : Location} {cs : List Component}
    (hle : links ≤ more) (h : d.walk links here cs = some loc) :
    d.walk more here cs = some loc := by
  fun_induction Disk.walk d links here cs generalizing more with
  | case1 links here => rwa [walk.eq_def]
  | case2 links here rest hh ih | case3 links here rest hh ih | case4 links here rest hh ih =>
    rw [walk_cons, if_pos hh]
    exact ih hle h
  | case5 links here rest n hn hr hh =>
    rw [walk_cons, if_pos hh]
    simp only [hn, if_pos hr, h]
  | case6 => cases h
  | case7 here rest n target hn k cs hcs hh ih =>
    obtain ⟨m, rfl⟩ : ∃ m, more = m + 1 := ⟨more - 1, by omega⟩
    rw [walk_cons, if_pos hh]
    simp only [hn, hcs]
    exact ih (Nat.le_of_succ_le_succ hle) h
  | case8 => cases h
  | case9 links here rest n item hi hn hh ih =>
    rw [walk_cons, if_pos hh]
    simp only [hn]
    exact ih hle h
  | case10 => cases h

/-- Whether components lead from a directory to a location, however many links they follow. -/
def Leads (d : Disk) (here : Location) (cs : List Component) (loc : Location) : Prop :=
  ∃ links, d.walk links here cs = some loc

theorem Leads.unique {here loc loc' : Location} {cs : List Component} (h : d.Leads here cs loc)
    (h' : d.Leads here cs loc') : loc = loc' := by
  obtain ⟨links, h⟩ := h
  obtain ⟨links', h'⟩ := h'
  have hm := walk_mono (Nat.le_max_left links links') h
  rw [walk_mono (Nat.le_max_right links links') h'] at hm
  exact (Option.some.inj hm).symm

theorem holdsDirectory_of_canSearch {here : Location} (h : d.canSearch here = true) :
    d.holdsDirectory here = true := by
  unfold canSearch at h
  unfold holdsDirectory
  cases hi : d.item? here with
  | none => rw [hi] at h; cases h
  | some item =>
    rw [hi] at h
    cases item with
    | directory _ _ => rfl
    | file _ _ => cases h
    | link _ => cases h

/-- Components lead on from directories alone. -/
theorem holdsDirectory_of_admits {here : Location} {c : Component}
    (h : d.admits here c = true) : d.holdsDirectory here = true := by
  cases c with
  | close => exact h
  | stay | up | name n => exact holdsDirectory_of_canSearch h

theorem admits_of_walk {links : Nat} {here loc : Location} {c : Component} {cs : List Component}
    (h : d.walk links here (c :: cs) = some loc) : d.admits here c = true := by
  rw [walk_cons] at h
  split at h
  · next hh => exact hh
  · cases h

/-- What is not there leads nowhere but to itself. -/
theorem eq_nil_of_walk {links : Nat} {here loc : Location} {cs : List Component}
    (hi : d.item? here = none) (h : d.walk links here cs = some loc) : cs = [] := by
  cases cs with
  | nil => rfl
  | cons c cs =>
    have hh := holdsDirectory_of_admits (admits_of_walk h)
    rw [holdsDirectory, hi] at hh
    cases hh

theorem walk_append {links k : Nat} {here mid loc : Location} {cs ds : List Component}
    (h : d.walk links here cs = some mid) (h' : d.walk k mid ds = some loc) :
    d.walk (links + k) here (cs ++ ds) = some loc := by
  fun_induction Disk.walk d links here cs with
  | case1 links here =>
    cases h
    exact walk_mono (Nat.le_add_left k links) h'
  | case2 links here rest hh ih | case3 links here rest hh ih | case4 links here rest hh ih =>
    rw [List.cons_append, walk_cons, if_pos hh]
    exact ih h
  | case5 links here rest n hn hr hh =>
    cases h
    obtain rfl := eq_nil_of_walk hn h'
    rw [walk.eq_def] at h'
    rw [List.append_nil, walk_cons, if_pos hh]
    simp only [hn, if_pos hr]
    exact h'
  | case6 => cases h
  | case7 here rest n target hn k' cs hcs hh ih =>
    rw [List.cons_append, walk_cons, if_pos hh, Nat.succ_add]
    simp only [hn, hcs]
    rw [← List.append_assoc]
    exact ih h
  | case8 => cases h
  | case9 links here rest n item hi hn hh ih =>
    rw [List.cons_append, walk_cons, if_pos hh]
    simp only [hn]
    exact ih h
  | case10 => cases h

theorem exists_of_walk_append {links : Nat} {here loc : Location} {cs ds : List Component}
    (h : d.walk links here (cs ++ ds) = some loc) :
    ∃ mid, d.Leads here cs mid ∧ d.Leads mid ds loc := by
  induction links, here, cs using walk.induct d with
  | case1 links here => exact ⟨here, ⟨links, walk.eq_def d links here []⟩, links, h⟩
  | case2 links here rest hh ih | case3 links here rest hh ih | case4 links here rest hh ih =>
    rw [List.cons_append, walk_cons, if_pos hh] at h
    obtain ⟨mid, ⟨k, hk⟩, hm⟩ := ih h
    exact ⟨mid, ⟨k, by rw [walk_cons, if_pos hh]; exact hk⟩, hm⟩
  | case5 links here rest n hn hr hh =>
    obtain rfl := List.isEmpty_iff.mp hr
    rw [List.cons_append, walk_cons, if_pos hh] at h
    simp only [hn, List.nil_append] at h
    split at h
    · next hds =>
      cases h
      obtain rfl := List.isEmpty_iff.mp hds
      refine ⟨n :: here, ⟨links, ?_⟩, 0, walk.eq_def ..⟩
      rw [walk_cons, if_pos hh]
      simp only [hn, if_pos hr]
    · cases h
  | case6 links here rest n hn hr hh =>
    have happend : (rest ++ ds).isEmpty ≠ true := by
      rw [List.isEmpty_iff] at hr
      rw [ne_eq, List.isEmpty_iff]
      exact List.append_ne_nil_of_left_ne_nil hr ds
    rw [List.cons_append, walk_cons, if_pos hh] at h
    simp only [hn, if_neg happend] at h
    cases h
  | case7 here rest n target hn k cs hcs hh ih =>
    rw [List.cons_append, walk_cons, if_pos hh] at h
    simp only [hn, hcs] at h
    rw [← List.append_assoc] at h
    obtain ⟨mid, ⟨k', hk⟩, hm⟩ := ih h
    refine ⟨mid, ⟨k' + 1, ?_⟩, hm⟩
    rw [walk_cons, if_pos hh]
    simp only [hn, hcs]
    exact hk
  | case8 links here rest n target hn hcs hh =>
    rw [List.cons_append, walk_cons, if_pos hh] at h
    simp only [hn] at h
    cases h
  | case9 links here rest n item hi hn hh ih =>
    rw [List.cons_append, walk_cons, if_pos hh] at h
    simp only [hn] at h
    obtain ⟨mid, ⟨k, hk⟩, hm⟩ := ih h
    refine ⟨mid, ⟨k, ?_⟩, hm⟩
    rw [walk_cons, if_pos hh]
    simp only [hn]
    exact hk
  | case10 links here c rest hh =>
    rw [List.cons_append, walk_cons, if_neg hh] at h
    cases h

/-- Components lead on from where those before them have led. -/
theorem leads_append_iff {here loc : Location} {cs ds : List Component} :
    d.Leads here (cs ++ ds) loc ↔ ∃ mid, d.Leads here cs mid ∧ d.Leads mid ds loc := by
  constructor
  · rintro ⟨links, h⟩
    exact exists_of_walk_append h
  · rintro ⟨mid, ⟨links, h⟩, k, h'⟩
    exact ⟨links + k, walk_append h h'⟩

/-- The slash at the end of a path stays where it is, in a directory. -/
theorem leads_close_iff {here loc : Location} :
    d.Leads here [.close] loc ↔ d.holdsDirectory here = true ∧ here = loc := by
  constructor
  · rintro ⟨links, h⟩
    have ha := admits_of_walk h
    rw [walk_cons, if_pos ha] at h
    exact ⟨ha, Option.some.inj ((walk.eq_def d links here []).symm.trans h)⟩
  · rintro ⟨hh, rfl⟩
    have ha : d.admits here .close = true := hh
    exact ⟨0, by rw [walk_cons, if_pos ha, walk.eq_def]⟩

theorem holdsDirectory_of_leads {here loc : Location} {c : Component} {cs : List Component}
    (h : d.Leads here (c :: cs) loc) : d.holdsDirectory here = true := by
  obtain ⟨links, h⟩ := h
  exact holdsDirectory_of_admits (admits_of_walk h)

/-! ### Paths -/

/-- The pieces of a path that are not empty. -/
def pieces (path : Bytes) : List Bytes := (Text.splitAt slash path).filter (!·.isEmpty)

theorem pieces_append_cons (s t : Bytes) : pieces (s ++ slash :: t) = pieces s ++ pieces t := by
  rw [pieces, Text.splitAt_append_cons, List.filter_append, pieces, pieces]

theorem pieces_name (n : Name) : pieces n.bytes = [n.bytes] := by
  rw [pieces, Text.splitAt_eq_singleton (slash_not_mem_of_isName n.valid)]
  exact List.filter_cons_of_pos (by simp [ne_nil_of_isName n.valid])

theorem ofBytes?_name (n : Name) : Component.ofBytes? n.bytes = some (.name n) := by
  have hv := n.valid
  simp only [isName, Bool.and_eq_true, bne_iff_ne] at hv
  rw [Component.ofBytes?, if_neg hv.1.1.2, if_neg hv.1.2, dif_pos n.valid]

theorem components?_of_slash (s : Bytes) :
    components? (s ++ [slash]) = ((pieces s).mapM Component.ofBytes?).map (· ++ [.close]) := by
  have hpieces : (Text.splitAt slash (s ++ [slash])).filter (!·.isEmpty) = pieces s :=
    (pieces_append_cons s []).trans (List.append_nil _)
  have hempty : (s ++ [slash]).isEmpty = false := by
    rw [Bool.eq_false_iff, ne_eq, List.isEmpty_iff]
    exact List.append_ne_nil_of_right_ne_nil _ (List.cons_ne_nil _ _)
  simp only [components?, hempty, hpieces, List.getLast?_concat, if_true, Bool.false_eq_true,
    if_false]

theorem components?_of_not_slash {path : Bytes} (hne : path ≠ [])
    (h : path.getLast? ≠ some slash) :
    components? path = (pieces path).mapM Component.ofBytes? := by
  have hempty : path.isEmpty = false := by simpa using hne
  simp only [components?, hempty, Bool.false_eq_true, if_false, if_neg h, Option.map_id']
  rfl

theorem components?_append_name (s : Bytes) (n : Name) :
    components? (s ++ slash :: n.bytes) =
      ((pieces s).mapM Component.ofBytes?).map (· ++ [.name n]) := by
  have hne : s ++ slash :: n.bytes ≠ [] :=
    List.append_ne_nil_of_right_ne_nil _ (List.cons_ne_nil _ _)
  have hlast : (s ++ slash :: n.bytes).getLast? ≠ some slash := by
    obtain ⟨c, hc⟩ := Option.isSome_iff_exists.mp
      (List.getLast?_isSome.mpr (ne_nil_of_isName n.valid))
    rw [List.getLast?_append, List.getLast?_cons, hc]
    rintro ⟨⟩
    exact slash_not_mem_of_isName n.valid (List.mem_of_getLast? hc)
  rw [components?_of_not_slash hne hlast, pieces_append_cons, pieces_name, List.mapM_append]
  cases (pieces s).mapM Component.ofBytes? with
  | none => rfl
  | some cs => simp [ofBytes?_name]

/-- Whether a path leads to a location where neither its length nor the links on its way are
limited. -/
def Reaches (d : Disk) (path : Bytes) (loc : Location) : Prop :=
  ∃ cs, components? path = some cs ∧ d.Leads (d.start path) cs loc

theorem Reaches.unique {path : Bytes} {loc loc' : Location} (h : d.Reaches path loc)
    (h' : d.Reaches path loc') : loc = loc' := by
  obtain ⟨cs, hcs, h⟩ := h
  obtain ⟨cs', hcs', h'⟩ := h'
  cases hcs.symm.trans hcs'
  exact h.unique h'

theorem Reaches.ne_nil {path : Bytes} {loc : Location} (h : d.Reaches path loc) : path ≠ [] := by
  rintro rfl
  obtain ⟨cs, hcs, -⟩ := h
  cases hcs

theorem reaches_of_locate? {path : Bytes} {loc : Location} (h : d.locate? path = some loc) :
    d.Reaches path loc := by
  rw [locate?] at h
  split at h
  · obtain ⟨cs, hcs, h⟩ := Option.bind_eq_some_iff.mp h
    exact ⟨cs, hcs, maxLinks, h⟩
  · cases h

/-- A slash at the end of the path of a directory changes nothing for what is in it. -/
theorem exists_joinPath_eq {path : Bytes} (hne : path ≠ []) (n : Name) :
    ∃ s, joinPath path n.bytes = s ++ slash :: n.bytes ∧ (path = s ∧ s.getLast? ≠ some slash ∨
      path = s ++ [slash]) := by
  have hempty : path.isEmpty = false := by simpa using hne
  by_cases hl : path.getLast? = some slash
  · obtain ⟨s, rfl⟩ := List.getLast?_eq_some_iff.mp hl
    refine ⟨s, ?_, .inr rfl⟩
    rw [joinPath, hl, hempty, if_pos (by simp), List.append_assoc]
    rfl
  · refine ⟨path, ?_, .inl ⟨rfl, hl⟩⟩
    rw [joinPath, hempty, if_neg (by simpa using hl)]

/-- The path of an entry begins where the path of its directory does. -/
theorem start_joinPath {path : Bytes} (hne : path ≠ []) (name : Bytes) :
    d.start (joinPath path name) = d.start path := by
  obtain ⟨b, bs, rfl⟩ := List.exists_cons_of_ne_nil hne
  unfold joinPath
  split <;> rfl

/-- The path of an entry of a directory leads to where its name leads from the directory. -/
theorem reaches_joinPath {path : Bytes} {loc : Location} (hne : path ≠ []) (n : Name) :
    d.Reaches (joinPath path n.bytes) loc ↔
      ∃ mid, d.Reaches path mid ∧ d.Leads mid [.name n] loc := by
  obtain ⟨s, hj, hs⟩ := exists_joinPath_eq hne n
  have hname : d.Reaches (joinPath path n.bytes) loc ↔
      ∃ cs mid, (pieces s).mapM Component.ofBytes? = some cs ∧ d.Leads (d.start path) cs mid ∧
        d.Leads mid [.name n] loc := by
    rw [Reaches, start_joinPath hne, hj, components?_append_name]
    constructor
    · rintro ⟨_, hds, hloc⟩
      obtain ⟨cs, hcs, rfl⟩ := Option.map_eq_some_iff.mp hds
      obtain ⟨mid, hmid, hn⟩ := leads_append_iff.mp hloc
      exact ⟨cs, mid, hcs, hmid, hn⟩
    · rintro ⟨cs, mid, hcs, hmid, hn⟩
      exact ⟨_, Option.map_eq_some_iff.mpr ⟨cs, hcs, rfl⟩, leads_append_iff.mpr ⟨mid, hmid, hn⟩⟩
  rw [hname]
  rcases hs with ⟨rfl, hl⟩ | rfl
  · simp only [Reaches, components?_of_not_slash hne hl]
    constructor
    · rintro ⟨cs, mid, hcs, hmid, hn⟩
      exact ⟨mid, ⟨cs, hcs, hmid⟩, hn⟩
    · rintro ⟨mid, ⟨cs, hcs, hmid⟩, hn⟩
      exact ⟨cs, mid, hcs, hmid, hn⟩
  · simp only [Reaches, components?_of_slash, Option.map_eq_some_iff]
    constructor
    · rintro ⟨cs, mid, hcs, hmid, hn⟩
      have hclose : d.Leads mid [.close] mid :=
        leads_close_iff.mpr ⟨holdsDirectory_of_leads hn, rfl⟩
      exact ⟨mid, ⟨_, ⟨cs, hcs, rfl⟩, leads_append_iff.mpr ⟨mid, hmid, hclose⟩⟩, hn⟩
    · rintro ⟨mid, ⟨_, ⟨cs, hcs, rfl⟩, hcsmid⟩, hn⟩
      obtain ⟨mid', hmid', hclose⟩ := leads_append_iff.mp hcsmid
      obtain ⟨-, rfl⟩ := leads_close_iff.mp hclose
      exact ⟨cs, mid', hcs, hmid', hn⟩

/-! ### Limits -/

/-- Whether a path leads where it would lead if neither its length nor the links on its way were
limited. -/
def IsWithinLimits (d : Disk) (path : Bytes) : Prop :=
  ∀ loc, d.Reaches path loc → d.locate? path = some loc

theorem isWithinLimits_of_locate? {path : Bytes} (h : (d.locate? path).isSome = true) :
    d.IsWithinLimits path := by
  obtain ⟨loc, h⟩ := Option.isSome_iff_exists.mp h
  intro loc' h'
  rw [h, (reaches_of_locate? h).unique h']

theorem IsWithinLimits.locate?_eq_some_iff {path : Bytes} {loc : Location}
    (h : d.IsWithinLimits path) : d.locate? path = some loc ↔ d.Reaches path loc :=
  ⟨reaches_of_locate?, h loc⟩

/-- Where two paths lead to the same place, so do the paths of an entry there. -/
theorem locate?_joinPath_eq {p q : Bytes} {loc : Location} (n : Name)
    (hp : d.locate? p = some loc) (hq : d.locate? q = some loc)
    (hpn : d.IsWithinLimits (joinPath p n.bytes))
    (hqn : d.IsWithinLimits (joinPath q n.bytes)) :
    d.locate? (joinPath p n.bytes) = d.locate? (joinPath q n.bytes) := by
  have hreach {path : Bytes} (h : d.locate? path = some loc) (l : Location) :
      d.Reaches (joinPath path n.bytes) l ↔ d.Leads loc [.name n] l := by
    have hr := reaches_of_locate? h
    rw [reaches_joinPath hr.ne_nil]
    exact ⟨fun ⟨mid, hm, hl⟩ => hr.unique hm ▸ hl, fun hl => ⟨loc, hr, hl⟩⟩
  refine Option.ext fun l => ?_
  rw [hpn.locate?_eq_some_iff, hqn.locate?_eq_some_iff, hreach hp, hreach hq]

end CodeAtlas.Disk
