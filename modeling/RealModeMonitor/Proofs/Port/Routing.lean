import RealModeMonitor.Port.HandlerTable

/-!
# The table of routes is a port map

`HandlerTable` finds its places by bisection and compares a new range with two entries only. That
is right because of the order that every operation keeps (`Ordered`): each entry ends before the
next one starts.

**Places.** On an ordered table the entries that start before a port stand before all others, so
`bisect` ends exactly between the two parts (`bisect_append`).

**Neighbours.** A range that overlaps some entry overlaps one of the two beside its place
(`Ordered.exists_overlap_iff`), and a port that lies in some entry lies in the last one that starts
no later (`Ordered.get?_eq_some_iff`).

Main result: `run_routes_exactly`, for the tables that any operations lead to.
-/

namespace RealModeMonitor

namespace HandlerTable

variable {t : HandlerTable} {range : PortRange} {device : DeviceId} {port : UInt16}

/-! ## Bisection -/

theorem bisect_append {p : PortEntry → Bool} {pre post : List PortEntry}
    (hpre : ∀ e ∈ pre, p e = true) (hpost : ∀ e ∈ post, p e = false) (lo hi : Nat)
    (hlo : lo ≤ pre.length) (hhi : pre.length ≤ hi) :
    bisect (pre ++ post) p lo hi = pre.length := by
  fun_induction bisect (pre ++ post) p lo hi with
  | case1 lo hi hlt middle hmiddle ih =>
    -- An entry for which `p` holds is one of the first part.
    refine ih (Nat.lt_of_not_le fun hle => ?_) hhi
    rw [List.getElem?_append_right hle, Option.any_eq_true] at hmiddle
    obtain ⟨e, he, hp⟩ := hmiddle
    rw [hpost e (List.mem_of_getElem? he)] at hp
    exact Bool.false_ne_true hp
  | case2 lo hi hlt middle hmiddle ih =>
    refine ih hlo (Nat.le_of_not_lt fun hlt => hmiddle ?_)
    rw [List.getElem?_append_left hlt, List.getElem?_eq_getElem hlt]
    exact hpre _ (List.getElem_mem hlt)
  | case3 lo hi hge => omega

/-! ## The order of the entries -/

/-- Each entry ends before those after it start. -/
def Ordered (t : HandlerTable) : Prop :=
  t.entries.Pairwise fun a b => a.range.stop ≤ b.range.start.toNat

/-- A test that only entries starting early pass splits an ordered table at its place. -/
theorem Ordered.split (h : t.Ordered) {p : PortEntry → Bool}
    (hp : ∀ a b : PortEntry, a.range.start ≤ b.range.start → p b = true → p a = true) :
    ∃ pre post, t.entries = pre ++ post ∧ (∀ e ∈ pre, p e = true) ∧ (∀ e ∈ post, p e = false) ∧
      t.place p = pre.length := by
  have hsplit : t.entries = t.entries.takeWhile p ++ t.entries.dropWhile p :=
    List.takeWhile_append_dropWhile.symm
  have hpre : ∀ e ∈ t.entries.takeWhile p, p e = true := fun e he =>
    List.all_eq_true.1 List.all_takeWhile e he
  have hpost : ∀ e ∈ t.entries.dropWhile p, p e = false := by
    cases hd : t.entries.dropWhile p with
    | nil => simp
    | cons first rest =>
      have hfirst : p first = false := by
        have := List.head_dropWhile_not p (by rw [hd]; simp)
        simpa [hd] using this
      rw [Ordered, hsplit, hd] at h
      have hrest := (List.pairwise_cons.1 (List.pairwise_append.1 h).2.1).1
      intro e he
      rcases List.mem_cons.1 he with rfl | he
      · exact hfirst
      · have hle : first.range.start ≤ e.range.start := by
          have := hrest e he
          have := first.range.start_lt_stop
          rw [UInt16.le_iff_toNat_le]
          omega
        exact Bool.eq_false_iff.2 fun hpe => by simp [hp first e hle hpe] at hfirst
  refine ⟨_, _, hsplit, hpre, hpost, ?_⟩
  have hlen : (t.entries.takeWhile p).length ≤ t.entries.length :=
    (List.takeWhile_sublist p).length_le
  have := bisect_append hpre hpost 0 t.entries.length (Nat.zero_le _) hlen
  rwa [← hsplit] at this

theorem Ordered.split_from (h : t.Ordered) (port : UInt16) :
    ∃ pre post, t.entries = pre ++ post ∧ (∀ e ∈ pre, e.range.start.toNat < port.toNat) ∧
      (∀ e ∈ post, port.toNat ≤ e.range.start.toNat) ∧ t.placeFrom port = pre.length := by
  obtain ⟨pre, post, hsplit, hpre, hpost, hplace⟩ :=
    h.split (p := fun e => e.range.start < port) fun a b hab hb => by
      simp only [decide_eq_true_eq, UInt16.lt_iff_toNat_lt, UInt16.le_iff_toNat_le] at *
      omega
  refine ⟨pre, post, hsplit, ?_, ?_, hplace⟩
  · intro e he
    simpa [UInt16.lt_iff_toNat_lt] using hpre e he
  · intro e he
    simpa [UInt16.lt_iff_toNat_lt] using hpost e he

theorem Ordered.split_after (h : t.Ordered) (port : UInt16) :
    ∃ pre post, t.entries = pre ++ post ∧ (∀ e ∈ pre, e.range.start.toNat ≤ port.toNat) ∧
      (∀ e ∈ post, port.toNat < e.range.start.toNat) ∧ t.placeAfter port = pre.length := by
  obtain ⟨pre, post, hsplit, hpre, hpost, hplace⟩ :=
    h.split (p := fun e => e.range.start ≤ port) fun a b hab hb => by
      simp only [decide_eq_true_eq, UInt16.le_iff_toNat_le] at *
      omega
  refine ⟨pre, post, hsplit, ?_, ?_, hplace⟩
  · intro e he
    simpa [UInt16.le_iff_toNat_le] using hpre e he
  · intro e he
    simpa [UInt16.le_iff_toNat_le] using hpost e he

/-! ## Neighbours -/

theorem entryBefore?_length {pre post : List PortEntry} (h : t.entries = pre ++ post) :
    t.entryBefore? pre.length = pre.getLast? := by
  rcases List.eq_nil_or_concat pre with rfl | ⟨init, last, rfl⟩
  · rfl
  · simp [entryBefore?, entryAt?, h]

theorem entryAt?_length {pre post : List PortEntry} (h : t.entries = pre ++ post) :
    t.entryAt? pre.length = post.head? := by
  rw [entryAt?, h, List.getElem?_append_right (Nat.le_refl _), Nat.sub_self, List.head?_eq_getElem?]

/-- An entry of an ordered list is the last one or ends before that one starts. -/
theorem exists_getLast? {pre : List PortEntry} {e : PortEntry}
    (h : pre.Pairwise fun a b => a.range.stop ≤ b.range.start.toNat) (he : e ∈ pre) :
    ∃ last ∈ pre, pre.getLast? = some last ∧
      (e = last ∨ e.range.stop ≤ last.range.start.toNat) := by
  rcases List.eq_nil_or_concat pre with rfl | ⟨init, last, rfl⟩
  · simp at he
  · rw [List.concat_eq_append] at h he ⊢
    refine ⟨last, by simp, by simp, ?_⟩
    rcases List.mem_append.1 he with he | he
    · exact Or.inr ((List.pairwise_append.1 h).2.2 e he last (by simp))
    · exact Or.inl (List.mem_singleton.1 he)

theorem overlaps_eq_true {r s : PortRange} :
    r.overlaps s = true ↔ r.start.toNat < s.stop ∧ s.start.toNat < r.stop := by
  simp [PortRange.overlaps]

/-- Some port of `range` is routed already. -/
def Claims (t : HandlerTable) (range : PortRange) : Prop :=
  ∃ port, range.contains port = true ∧ ∃ e ∈ t.entries, e.range.contains port = true

theorem claims_iff : t.Claims range ↔ ∃ e ∈ t.entries, e.range.overlaps range = true := by
  simp only [Claims, PortRange.overlaps_iff]
  constructor
  · rintro ⟨port, hport, e, he, hcontains⟩
    exact ⟨e, he, port, hcontains, hport⟩
  · rintro ⟨e, he, port, hcontains, hport⟩
    exact ⟨port, hport, e, he, hcontains⟩

/-- **Two neighbours are enough.** A range that overlaps an entry overlaps one beside its place. -/
theorem Ordered.any_beside_iff (h : t.Ordered) (range : PortRange) :
    ((t.beside (t.placeFrom range.start)).any fun e => e.range.overlaps range) = true ↔
      t.Claims range := by
  obtain ⟨pre, post, hsplit, hpre, hpost, hplace⟩ := h.split_from range.start
  rw [claims_iff, hplace, beside, entryBefore?_length hsplit, entryAt?_length hsplit,
    List.any_eq_true]
  constructor
  · rintro ⟨e, he, hover⟩
    refine ⟨e, ?_, hover⟩
    rw [hsplit]
    rcases List.mem_append.1 he with he | he
    · exact List.mem_append_left _ (List.mem_of_getLast? (Option.mem_toList.1 he))
    · exact List.mem_append_right _ (List.mem_of_head? (Option.mem_toList.1 he))
  · rintro ⟨e, he, hover⟩
    rw [Ordered, hsplit, List.pairwise_append] at h
    obtain ⟨hordpre, hordpost, -⟩ := h
    rw [hsplit] at he
    rw [overlaps_eq_true] at hover
    rcases List.mem_append.1 he with he | he
    · obtain ⟨last, hmem, hlast, rfl | hstop⟩ := exists_getLast? hordpre he
      · exact ⟨e, by simp [hlast], overlaps_eq_true.2 hover⟩
      · -- An entry further to the left ends before `last` starts, and so before `range`.
        have hstart := hpre last hmem
        omega
    · cases post with
      | nil => simp at he
      | cons first rest =>
        refine ⟨first, by simp, ?_⟩
        rcases List.mem_cons.1 he with rfl | he
        · exact overlaps_eq_true.2 hover
        · have hstop := (List.pairwise_cons.1 hordpost).1 e he
          have hstart := hpost first (by simp)
          have := first.range.start_lt_stop
          exact overlaps_eq_true.2 ⟨by omega, by omega⟩

/-- **One neighbour is enough.** Only the last entry that starts at `port` or before contains it. -/
theorem Ordered.get?_eq_some_iff (h : t.Ordered) (port : UInt16) (e : PortEntry) :
    t.get? port = some e ↔ e ∈ t.entries ∧ e.range.contains port = true := by
  obtain ⟨pre, post, hsplit, hpre, hpost, hplace⟩ := h.split_after port
  rw [get?, hplace, entryBefore?_length hsplit, Option.filter_eq_some_iff]
  refine and_congr_left fun hcontains => ?_
  rw [PortRange.contains_iff] at hcontains
  constructor
  · intro he
    rw [hsplit]
    exact List.mem_append_left _ (List.mem_of_getLast? he)
  · intro he
    rw [hsplit] at he
    rw [Ordered, hsplit, List.pairwise_append] at h
    rcases List.mem_append.1 he with he | he
    · obtain ⟨last, hmem, hlast, rfl | hstop⟩ := exists_getLast? h.1 he
      · exact hlast
      · have hstart := hpre last hmem
        omega
    · have := hpost e he
      omega

/-! ## Changing a table -/

theorem insertIdx_append_length (pre post : List PortEntry) (e : PortEntry) :
    (pre ++ post).insertIdx pre.length e = pre ++ e :: post := by
  induction pre with
  | nil => rfl
  | cons first rest ih =>
    rw [List.cons_append, List.length_cons, List.insertIdx_succ_cons, ih, List.cons_append]

/-- Everything that adding can do. The place of a new entry keeps the order. -/
theorem Ordered.add_cases (h : t.Ordered) (range : PortRange) (device : DeviceId) :
    (t.Claims range ∧ t.add range device = .error (.conflict range.start range.last)) ∨
    (¬t.Claims range ∧ t.capacity ≤ t.entries.length ∧
      t.add range device = .error (.exhausted .ioHandlerSlot)) ∨
    (¬t.Claims range ∧ t.entries.length < t.capacity ∧
      ∃ pre post, t.entries = pre ++ post ∧ (∀ e ∈ pre, e.range.stop ≤ range.start.toNat) ∧
        (∀ e ∈ post, range.stop ≤ e.range.start.toNat) ∧
        t.add range device = .ok { t with entries := pre ++ ⟨range, device⟩ :: post }) := by
  by_cases hclaims : t.Claims range
  · exact .inl ⟨hclaims, by simp only [add, (h.any_beside_iff range).2 hclaims, if_true]⟩
  have hbeside := mt (h.any_beside_iff range).1 hclaims
  by_cases hfull : t.capacity ≤ t.entries.length
  · exact .inr (.inl ⟨hclaims, hfull, by simp only [add, hbeside, hfull, if_true]; rfl⟩)
  obtain ⟨pre, post, hsplit, hpre, hpost, hplace⟩ := h.split_from range.start
  have hdisjoint : ∀ e ∈ t.entries,
      ¬(e.range.start.toNat < range.stop ∧ range.start.toNat < e.range.stop) := fun e he hover =>
    hclaims (claims_iff.2 ⟨e, he, overlaps_eq_true.2 hover⟩)
  refine .inr (.inr ⟨hclaims, Nat.lt_of_not_le hfull, pre, post, hsplit, ?_, ?_, ?_⟩)
  · intro e he
    have := hdisjoint e (by rw [hsplit]; exact List.mem_append_left _ he)
    have := hpre e he
    have := range.start_lt_stop
    omega
  · intro e he
    have := hdisjoint e (by rw [hsplit]; exact List.mem_append_right _ he)
    have := hpost e he
    have := e.range.start_lt_stop
    omega
  · simp only [add, hbeside, hfull, if_false]
    rw [hplace, hsplit, insertIdx_append_length]
    rfl

/-- The entry of exactly `range` stands at the place of its first port. -/
theorem Ordered.remove_of_mem (h : t.Ordered) {e : PortEntry} (he : e ∈ t.entries) :
    t.remove e.range = (some e.device, { t with entries := t.entries.erase e }) := by
  obtain ⟨pre, post, hsplit, hpre, hpost, hplace⟩ := h.split_from e.range.start
  have hnot : e ∉ pre := fun hmem => Nat.lt_irrefl _ (hpre e hmem)
  rw [hsplit] at he
  rw [Ordered, hsplit, List.pairwise_append] at h
  obtain ⟨first, rest, rfl⟩ : ∃ first rest, post = first :: rest := by
    cases post with
    | nil => simp [hnot] at he
    | cons first rest => exact ⟨first, rest, rfl⟩
  have hfirst : first = e := by
    rcases List.mem_cons.1 ((List.mem_append.1 he).resolve_left hnot) with rfl | hrest
    · rfl
    · have := (List.pairwise_cons.1 h.2.1).1 e hrest
      have := hpost first (by simp)
      have := first.range.start_lt_stop
      omega
  subst hfirst
  simp only [remove, hplace, entryAt?_length hsplit, List.head?_cons, if_true]
  rw [hsplit, List.erase_append_right _ hnot, List.erase_cons_head,
    List.eraseIdx_append_of_length_le (Nat.le_refl _), Nat.sub_self, List.eraseIdx_cons_zero]

theorem remove_of_forall_ne (hne : ∀ e ∈ t.entries, e.range ≠ range) :
    t.remove range = (none, t) := by
  simp only [remove]
  cases hat : t.entryAt? (t.placeFrom range.start) with
  | none => rfl
  | some e => simp only [hne e (List.mem_of_getElem? hat), if_false]

/-! ## Runs -/

inductive Op where
  | add (range : PortRange) (device : DeviceId)
  | remove (range : PortRange)
  | removeDevice (device : DeviceId)

/-- A table that refuses a range stays as it is. -/
def step (t : HandlerTable) : Op → HandlerTable
  | .add range device =>
    match t.add range device with
    | .ok t => t
    | .error _ => t
  | .remove range => (t.remove range).2
  | .removeDevice device => t.removeDevice device

def run (t : HandlerTable) (ops : List Op) : HandlerTable := ops.foldl step t

/-- The order, and the bound on the number of entries. -/
structure WellFormed (t : HandlerTable) (capacity : Nat) : Prop where
  ordered : t.Ordered
  capacity_eq : t.capacity = capacity
  bounded : t.entries.length ≤ capacity

theorem WellFormed.mono {capacity : Nat} (h : t.WellFormed capacity) {entries : List PortEntry}
    (hsub : entries.Sublist t.entries) : { t with entries }.WellFormed capacity :=
  ⟨h.ordered.sublist hsub, h.capacity_eq, Nat.le_trans hsub.length_le h.bounded⟩

theorem WellFormed.step {capacity : Nat} (h : t.WellFormed capacity) (op : Op) :
    (t.step op).WellFormed capacity := by
  cases op with
  | add range device =>
    obtain ⟨-, hadd⟩ | ⟨-, -, hadd⟩ | ⟨-, hroom, pre, post, hsplit, hpre, hpost, hadd⟩ :=
      h.ordered.add_cases range device
    · simpa only [HandlerTable.step, hadd] using h
    · simpa only [HandlerTable.step, hadd] using h
    · simp only [HandlerTable.step, hadd]
      have hord := h.ordered
      rw [Ordered, hsplit, List.pairwise_append] at hord
      refine ⟨?_, h.capacity_eq, ?_⟩
      · refine List.pairwise_append.2 ⟨hord.1, List.pairwise_cons.2 ⟨hpost, hord.2.1⟩, ?_⟩
        intro a ha b hb
        rcases List.mem_cons.1 hb with rfl | hb
        · exact hpre a ha
        · exact hord.2.2 a ha b hb
      · have hlen := congrArg List.length hsplit
        have := h.capacity_eq
        simp only [List.length_append, List.length_cons] at hlen ⊢
        omega
  | remove range =>
    by_cases hmem : ∃ e ∈ t.entries, e.range = range
    · obtain ⟨e, he, rfl⟩ := hmem
      simp only [HandlerTable.step, h.ordered.remove_of_mem he]
      exact h.mono List.erase_sublist
    · simpa only [HandlerTable.step, remove_of_forall_ne fun e he hr => hmem ⟨e, he, hr⟩] using h
  | removeDevice device => exact h.mono List.filter_sublist

theorem WellFormed.run {capacity : Nat} (h : t.WellFormed capacity) (ops : List Op) :
    (t.run ops).WellFormed capacity := by
  induction ops generalizing t with
  | nil => exact h
  | cons op ops ih => exact ih (h.step op)

theorem wellFormed_empty (capacity : Nat) : WellFormed { capacity } capacity :=
  ⟨List.Pairwise.nil, rfl, Nat.zero_le _⟩

/-! ## The port map -/

/-- A table of the given capacity behaves as the map from ports to entries that its list of
entries describes. -/
structure RoutesExactly (t : HandlerTable) (capacity : Nat) : Prop where
  sorted : t.entries.Pairwise fun a b => a.range.start < b.range.start
  disjoint : t.entries.Pairwise fun a b =>
    ∀ port, ¬(a.range.contains port = true ∧ b.range.contains port = true)
  bounded : t.entries.length ≤ capacity
  /-- A range is in conflict exactly if one of its ports is routed. -/
  add_conflict : ∀ range device,
    t.add range device = .error (.conflict range.start range.last) ↔ t.Claims range
  /-- Only then does it matter whether the table is full. -/
  add_exhausted : ∀ range device,
    t.add range device = .error (.exhausted .ioHandlerSlot) ↔
      ¬t.Claims range ∧ t.entries.length = capacity
  add_ok : ∀ range device,
    (∃ t', t.add range device = .ok t') ↔ ¬t.Claims range ∧ t.entries.length < capacity
  /-- A new entry, and nothing else, is added. -/
  entries_add : ∀ range device t', t.add range device = .ok t' →
    t'.capacity = capacity ∧ t'.entries.Perm (⟨range, device⟩ :: t.entries)
  step_refused : ∀ range device e, t.add range device = .error e → t.step (.add range device) = t
  remove_mem : ∀ e ∈ t.entries,
    t.remove e.range = (some e.device, { t with entries := t.entries.erase e })
  remove_other : ∀ range, (∀ e ∈ t.entries, e.range ≠ range) → t.remove range = (none, t)
  mem_removeDevice : ∀ device e,
    e ∈ (t.removeDevice device).entries ↔ e ∈ t.entries ∧ e.device ≠ device
  /-- The entry of a port is the one whose range contains it. -/
  get?_some : ∀ port e, t.get? port = some e ↔ e ∈ t.entries ∧ e.range.contains port = true
  get?_none : ∀ port, t.get? port = none ↔ ∀ e ∈ t.entries, e.range.contains port = false

theorem WellFormed.routesExactly {capacity : Nat} (h : t.WellFormed capacity) :
    t.RoutesExactly capacity where
  sorted := h.ordered.imp fun {a b} hab => by
    have := a.range.start_lt_stop
    rw [UInt16.lt_iff_toNat_lt]
    omega
  disjoint := h.ordered.imp fun {a b} hab port hboth => by
    simp only [PortRange.contains_iff] at hboth
    omega
  bounded := h.bounded
  add_conflict range device := by
    obtain ⟨hclaims, hadd⟩ | ⟨hfree, -, hadd⟩ | ⟨hfree, -, _, _, -, -, -, hadd⟩ :=
      h.ordered.add_cases range device <;> simp [*]
  add_exhausted range device := by
    have hcap := h.capacity_eq
    have hbound := h.bounded
    obtain ⟨hclaims, hadd⟩ | ⟨hfree, hfull, hadd⟩ | ⟨hfree, hroom, _, _, -, -, -, hadd⟩ :=
      h.ordered.add_cases range device
    · simp [hadd, hclaims]
    · simp only [hadd, hfree, not_false_eq_true, true_and, true_iff]
      omega
    · simp only [hadd, reduceCtorEq, false_iff, not_and]
      omega
  add_ok range device := by
    have hcap := h.capacity_eq
    obtain ⟨hclaims, hadd⟩ | ⟨hfree, hfull, hadd⟩ | ⟨hfree, hroom, _, _, -, -, -, hadd⟩ :=
      h.ordered.add_cases range device
    · simp [hadd, hclaims]
    · simp only [hadd, reduceCtorEq, exists_false, false_iff, not_and]
      omega
    · exact ⟨fun _ => ⟨hfree, hcap ▸ hroom⟩, fun _ => ⟨_, hadd⟩⟩
  entries_add range device t' hok := by
    obtain ⟨-, hadd⟩ | ⟨-, -, hadd⟩ | ⟨-, -, pre, post, hsplit, -, -, hadd⟩ :=
      h.ordered.add_cases range device
    · simp [hadd] at hok
    · simp [hadd] at hok
    · obtain rfl := Except.ok.inj (hadd.symm.trans hok)
      refine ⟨h.capacity_eq, ?_⟩
      rw [hsplit]
      exact List.perm_middle
  step_refused range device e hadd := by rw [HandlerTable.step, hadd]
  remove_mem e he := h.ordered.remove_of_mem he
  remove_other range hne := remove_of_forall_ne hne
  mem_removeDevice device e := by simp [removeDevice]
  get?_some port e := h.ordered.get?_eq_some_iff port e
  get?_none port := by
    rw [Option.eq_none_iff_forall_ne_some]
    simp only [ne_eq, h.ordered.get?_eq_some_iff, not_and, Bool.not_eq_true]

/-- **Routing is exact.** Whatever was added and removed, the table is the port map that its
entries describe. -/
theorem run_routes_exactly (capacity : Nat) (ops : List Op) :
    (run { capacity } ops).RoutesExactly capacity :=
  ((wellFormed_empty capacity).run ops).routesExactly

end HandlerTable
end RealModeMonitor
