import DocAudit.Proofs.Command.Shared
import Mathlib.Data.List.Dedup

/-!
# Single flight

However the steps of callers of a shared cache are interleaved, calls for one fingerprint share one
spawn as long as the cache is not cleared.  `single_flight` says this of every run, together with
what clearing changes: calls that hold a slot from before go on with it, and later calls never see
it.
-/

namespace DocAudit.SharedCache

variable {σ : Type} {spawn : Spawner σ} {w v u : SharedCache σ} {a : Action} {as : List Action}

/-! ## The number of slots for a fingerprint -/

/-- One if there is an entry for the fingerprint. -/
def entries (w : SharedCache σ) (f : Fingerprint) : Nat := (w.slotOf? f).toList.length

theorem entries_le_one (w : SharedCache σ) (f : Fingerprint) : w.entries f ≤ 1 := by
  unfold entries
  cases w.slotOf? f <;> simp

theorem countP_fillSlot {call : Call} {slot : Slot} (hs : w.slots[call.slot]? = some slot)
    (s : Spawned σ) (f : Fingerprint) :
    (w.fillSlot call slot s).slots.countP (·.fingerprint = f) =
      w.slots.countP (·.fingerprint = f) := by
  obtain ⟨hlt, hget⟩ := List.getElem?_eq_some_iff.1 hs
  unfold fillSlot
  rw [List.countP_set hlt, hget]
  by_cases hf : slot.fingerprint = f
  · have hpos : 0 < w.slots.countP (·.fingerprint = f) :=
      List.countP_pos_iff.2 ⟨slot, List.mem_of_getElem? hs, by simpa using hf⟩
    simp only [hf, decide_true, if_true]
    exact Nat.sub_add_cancel hpos
  · simp [hf]

/-- A step makes a slot only where the table has none, and only clearing takes one out. -/
theorem Step.countP_slots_le (h : Step spawn w a v) (f : Fingerprint) {k : Nat}
    (hk : w.slots.countP (·.fingerprint = f) ≤ k + w.entries f) :
    v.slots.countP (·.fingerprint = f) ≤ k + [a].count .clear + v.entries f := by
  cases h with
  | join hn => exact hk
  | @create c hn =>
    unfold entries at *
    have hslot : ((w.addSlot c.fingerprint).addCall c w.slots.length).slotOf? f =
        (w.addSlot c.fingerprint).slotOf? f := rfl
    rw [hslot, slotOf?_addSlot]
    unfold addCall addSlot
    rw [List.countP_append, List.countP_singleton]
    by_cases hf : c.fingerprint = f
    · subst hf
      rw [hn] at hk
      simpa using hk
    · simpa [hf] using hk
  | hit hi hp hx => exact hk
  | miss hi hp hx => exact hk
  | late hi hp hx => exact hk
  | spawn hi hp hs he => exact Nat.le_trans (Nat.le_of_eq (countP_fillSlot hs _ f)) hk
  | clear =>
    have hone := w.entries_le_one f
    have hcount : [Action.clear].count .clear = 1 := rfl
    rw [hcount]
    exact Nat.le_trans hk (by omega)

theorem Run.countP_slots_le (h : Run spawn w as v) (f : Fingerprint) {k : Nat}
    (hk : w.slots.countP (·.fingerprint = f) ≤ k + w.entries f) :
    v.slots.countP (·.fingerprint = f) ≤ k + as.count .clear + v.entries f := by
  induction h generalizing k with
  | nil => exact hk
  | @cons _ _ _ a as h _ ih =>
    have := ih (h.countP_slots_le f hk)
    rw [← List.singleton_append, List.count_append]
    omega

theorem Valid.spawnsOf_le (hw : w.Valid) (f : Fingerprint) :
    w.spawnsOf f ≤ w.slots.countP (·.fingerprint = f) := by
  rw [hw.counted f]
  refine List.countP_mono_left fun s _ hs => ?_
  exact (Bool.and_eq_true _ _ ▸ hs).1

/-! ## Calls and the table -/

theorem getElem?_addCall {c : Command} {n i : Nat} {d : Call}
    (h : (w.addCall c n).calls[i]? = some d) :
    w.calls[i]? = some d ∨ i = w.calls.length ∧ d = ⟨c, n, .holding⟩ := by
  unfold addCall at h
  rw [List.getElem?_append] at h
  split at h
  · exact .inl h
  · rw [List.getElem?_singleton] at h
    split at h
    · cases h
      exact .inr ⟨by omega, rfl⟩
    · cases h

theorem getElem?_setPhase {i j : Nat} {call d : Call} {p : Phase}
    (hi : w.calls[i]? = some call) (h : (w.setPhase i call p).calls[j]? = some d) :
    ∃ c, w.calls[j]? = some c ∧ d.command = c.command ∧ d.slot = c.slot := by
  unfold setPhase at h
  rw [List.getElem?_set] at h
  split at h
  · rename_i hij
    split at h
    · cases h
      exact ⟨call, hij ▸ hi, rfl, rfl⟩
    · cases h
  · exact ⟨d, h, rfl, rfl⟩

/-- A step makes at most one call, which gets the slot that the table then has for its command;
entries stay unless the cache is cleared. -/
theorem Step.calls_cases (h : Step spawn w a v) {i : Nat} {d : Call}
    (hd : v.calls[i]? = some d) :
    (∃ c, w.calls[i]? = some c ∧ d.command = c.command ∧ d.slot = c.slot) ∨
      i = w.calls.length ∧ v.slotOf? d.command.fingerprint = some d.slot := by
  cases h with
  | join hn =>
    rcases getElem?_addCall hd with hd | ⟨hi, rfl⟩
    · exact .inl ⟨d, hd, rfl, rfl⟩
    · exact .inr ⟨hi, hn⟩
  | @create c hn =>
    rcases getElem?_addCall hd with hd | ⟨hi, rfl⟩
    · exact .inl ⟨d, hd, rfl, rfl⟩
    · refine .inr ⟨hi, ?_⟩
      have hslot := w.slotOf?_addSlot c.fingerprint c.fingerprint
      rw [if_pos rfl] at hslot
      exact hslot
  | hit hi hp hx => exact .inl (getElem?_setPhase hi hd)
  | miss hi hp hx => exact .inl (getElem?_setPhase hi hd)
  | late hi hp hx => exact .inl (getElem?_setPhase hi hd)
  | spawn hi hp hs he => exact .inl (getElem?_setPhase (w := fillSlot _ _ _ _) hi hd)
  | clear => exact .inl ⟨d, hd, rfl, rfl⟩

theorem Step.slotOf?_eq (h : Step spawn w a v) (ha : a ≠ .clear) {f : Fingerprint} {n : Nat}
    (hn : w.slotOf? f = some n) : v.slotOf? f = some n := by
  cases h with
  | @create c hc =>
    have hslot := w.slotOf?_addSlot f c.fingerprint
    rw [if_neg (fun hf => by rw [hf, hn] at hc; cases hc), hn] at hslot
    exact hslot
  | clear => exact absurd rfl ha
  | join _ => exact hn
  | hit _ _ _ => exact hn
  | miss _ _ _ => exact hn
  | late _ _ _ => exact hn
  | spawn _ _ _ _ => exact hn

theorem Step.slotOf?_cases (h : Step spawn w a v) {f : Fingerprint} {n : Nat}
    (hn : v.slotOf? f = some n) : w.slotOf? f = some n ∨ n = w.slots.length := by
  cases h with
  | @create c hc =>
    have hslot := w.slotOf?_addSlot f c.fingerprint
    rw [show (w.addSlot c.fingerprint).slotOf? f = some n from hn] at hslot
    split at hslot
    · exact .inr (Option.some.inj hslot)
    · exact .inl hslot.symm
  | clear => cases hn
  | join _ => exact .inl hn
  | hit _ _ _ => exact .inl hn
  | miss _ _ _ => exact .inl hn
  | late _ _ _ => exact .inl hn
  | spawn _ _ _ _ => exact .inl hn

theorem Extends.length_slots_le (h : Extends w v) : w.slots.length ≤ v.slots.length := by
  by_contra hlt
  obtain ⟨t, ht, _⟩ := h.slots (List.getElem?_eq_getElem (Nat.lt_of_not_le hlt))
  rw [List.getElem?_eq_none (Nat.le_refl _)] at ht
  cases ht

/-- Until the cache is cleared, calls hold the slots of the table. -/
theorem Run.slotOf?_calls {base : Nat} (h : Run spawn w as v) (hclear : .clear ∉ as)
    (hw : ∀ i c, base ≤ i → w.calls[i]? = some c →
      w.slotOf? c.command.fingerprint = some c.slot) :
    ∀ i c, base ≤ i → v.calls[i]? = some c →
      v.slotOf? c.command.fingerprint = some c.slot := by
  induction h with
  | nil => exact hw
  | cons h _ ih =>
    rw [List.mem_cons, not_or] at hclear
    refine ih hclear.2 fun i d hi hd => ?_
    rcases h.calls_cases hd with ⟨c, hc, hcmd, hslot⟩ | ⟨_, hd⟩
    · rw [hcmd, hslot]
      exact h.slotOf?_eq (Ne.symm hclear.1) (hw i c hi hc)
    · exact hd

/-- Once the table has slots from number `m` on only, so have the calls that are made. -/
theorem Run.le_slot {m base : Nat} (h : Run spawn w as v) (hm : m ≤ w.slots.length)
    (ht : ∀ f n, w.slotOf? f = some n → m ≤ n)
    (hc : ∀ i c, base ≤ i → w.calls[i]? = some c → m ≤ c.slot) :
    ∀ i c, base ≤ i → v.calls[i]? = some c → m ≤ c.slot := by
  induction h with
  | nil => exact hc
  | @cons w v u a as h _ ih =>
    have ht' : ∀ f n, v.slotOf? f = some n → m ≤ n := by
      intro f n hn
      rcases h.slotOf?_cases hn with hn | rfl
      · exact ht f n hn
      · exact hm
    refine ih (Nat.le_trans hm h.toExtends.length_slots_le) ht' fun i d hi hd => ?_
    rcases h.calls_cases hd with ⟨c, hwc, _, hslot⟩ | ⟨_, hd⟩
    · rw [hslot]
      exact hc i c hi hwc
    · exact ht' _ _ hd

/-- The fingerprints that have been asked for since the last time the cache was cleared, if `fs`
were before. -/
def askedFrom (fs : List Fingerprint) : List Action → List Fingerprint
  | [] => fs
  | .enter c :: as => askedFrom (fs ++ [c.fingerprint]) as
  | .clear :: as => askedFrom [] as
  | _ :: as => askedFrom fs as

/-- The table has the fingerprints that have been asked for since it was cleared. -/
theorem Run.isSome_slotOf?_iff (h : Run spawn w as v) {fs : List Fingerprint}
    (hw : ∀ f, (w.slotOf? f).isSome = true ↔ f ∈ fs) :
    ∀ f, (v.slotOf? f).isSome = true ↔ f ∈ askedFrom fs as := by
  induction h generalizing fs with
  | nil => exact hw
  | @cons w v u a as h _ ih =>
    cases h with
    | @join c n hn =>
      refine @ih (fs ++ [c.fingerprint]) fun f => ?_
      rw [List.mem_append, List.mem_singleton, ← hw f]
      refine ⟨.inl, ?_⟩
      rintro (hf | rfl)
      · exact hf
      · exact Option.isSome_iff_exists.2 ⟨n, hn⟩
    | @create c hn =>
      refine @ih (fs ++ [c.fingerprint]) fun f => ?_
      have hslot : ((w.addSlot c.fingerprint).addCall c w.slots.length).slotOf? f =
          if c.fingerprint = f then some w.slots.length else w.slotOf? f :=
        w.slotOf?_addSlot f c.fingerprint
      rw [hslot, List.mem_append, List.mem_singleton, ← hw f]
      by_cases hf : c.fingerprint = f
      · simp [hf]
      · simp [hf, Ne.symm hf]
    | hit _ _ _ => exact ih hw
    | miss _ _ _ => exact ih hw
    | late _ _ _ => exact ih hw
    | spawn _ _ _ _ => exact ih hw
    | clear => exact @ih [] fun f => by simp [slotOf?]

/-! ## All interleavings -/

/-- Calls of one fingerprint that are made without clearing in between return the same. -/
theorem Run.result_unique {bs cs : List Action} (hw : w.Valid) (hclear : .clear ∉ bs)
    (hv : Run spawn w bs v) (hu : Run spawn v cs u) {i j : Nat} {c d : Call} {x y : Execution}
    (hi : w.calls.length ≤ i ∧ i < v.calls.length) (hj : w.calls.length ≤ j ∧ j < v.calls.length)
    (hc : u.calls[i]? = some c) (hd : u.calls[j]? = some d)
    (hf : c.command.fingerprint = d.command.fingerprint) (hx : c.phase = .returned x)
    (hy : d.phase = .returned y) : x = y := by
  have hnew : ∀ i c, w.calls.length ≤ i → w.calls[i]? = some c →
      w.slotOf? c.command.fingerprint = some c.slot := by
    intro i c hi hc
    rw [List.getElem?_eq_none hi] at hc
    cases hc
  have hslots := hv.slotOf?_calls hclear hnew
  have hvalid := hu.valid (hv.valid hw)
  -- the calls held the same slot when the stretch without clearing ended, and they keep it
  obtain ⟨c', hc', hcmd, hslot, _⟩ := hu.toExtends.calls (List.getElem?_eq_getElem hi.2)
  obtain ⟨d', hd', hcmd', hslot', _⟩ := hu.toExtends.calls (List.getElem?_eq_getElem hj.2)
  cases hc.symm.trans hc'
  cases hd.symm.trans hd'
  have hci := hslots i _ hi.1 (List.getElem?_eq_getElem hi.2)
  have hdj := hslots j _ hj.1 (List.getElem?_eq_getElem hj.2)
  rw [← hcmd, hf, hcmd', hdj] at hci
  have hsame : d.slot = c.slot := by rw [hslot, hslot', Option.some.inj hci]
  have hcx := (hvalid.calls c (List.mem_of_getElem? hc)).content?_eq hx
  have hdy := (hvalid.calls d (List.mem_of_getElem? hd)).content?_eq hy
  rw [hsame, hcx] at hdy
  exact Option.some.inj hdy

/-- **Single flight.**  However the steps of any number of calls are interleaved, and whenever the
cache is cleared:

* a slot is filled at most once, and its content never changes;
* for one fingerprint there are at most as many spawns as there were times to clear, and one more;
* calls for one fingerprint with no clearing between them return the same result;
* a call made after clearing returns what a slot holds that has been made after clearing, whatever
  is filled in elsewhere;
* the number of entries is the number of fingerprints asked for since the last clearing. -/
theorem single_flight (spawn : Spawner σ) (st : σ) (as : List Action) (w : SharedCache σ)
    (h : Run spawn (start st) as w) :
    ((w.spawns.map (·.1)).Nodup ∧
      ∀ bs v, Run spawn w bs v → ∀ n x, w.content? n = some x → v.content? n = some x) ∧
    (∀ f, w.spawnsOf f ≤ 1 + as.count .clear) ∧
    (∀ bs v cs u, .clear ∉ bs → Run spawn w bs v → Run spawn v cs u →
      ∀ i j c d x y, w.calls.length ≤ i ∧ i < v.calls.length →
        w.calls.length ≤ j ∧ j < v.calls.length →
        u.calls[i]? = some c → u.calls[j]? = some d →
        c.command.fingerprint = d.command.fingerprint →
        c.phase = .returned x → d.phase = .returned y → x = y) ∧
    (∀ v bs u, Step spawn w .clear v → Run spawn v bs u →
      ∀ i c x, w.calls.length ≤ i → u.calls[i]? = some c → c.phase = .returned x →
        w.slots.length ≤ c.slot ∧ u.content? c.slot = some x) ∧
    w.len = (askedFrom [] as).dedup.length := by
  have hw := h.valid (valid_start st)
  refine ⟨⟨hw.once, fun bs v hv n x hx => hv.toExtends.content?_eq hx⟩, ?_, ?_, ?_, ?_⟩
  · intro f
    have hslots := h.countP_slots_le f (k := 0) (Nat.zero_le _)
    have hone := w.entries_le_one f
    have hspawns := hw.spawnsOf_le f
    omega
  · intro bs v cs u hclear hv hu i j c d x y hi hj hc hd hf hx hy
    exact Run.result_unique hw hclear hv hu hi hj hc hd hf hx hy
  · intro v bs u hclear hu i c x hi hc hx
    have hvalid := hu.valid (hclear.valid hw)
    cases hclear
    refine ⟨hu.le_slot (Nat.le_refl _) (fun f n hn => by cases hn) (fun j d hj hd => ?_) i c hi hc,
      (hvalid.calls c (List.mem_of_getElem? hc)).content?_eq hx⟩
    rw [List.getElem?_eq_none hj] at hd
    cases hd
  · have hkeys : ∀ f, f ∈ w.table.map (·.1) ↔ f ∈ (askedFrom [] as).dedup := by
      intro f
      rw [mem_keys_iff, List.mem_dedup]
      exact h.isSome_slotOf?_iff (fun f => by simp [slotOf?, start]) f
    have hperm : (w.table.map (·.1)).Perm (askedFrom [] as).dedup :=
      (List.perm_ext_iff_of_nodup hw.keys (List.nodup_dedup _)).2 hkeys
    rw [len, ← hperm.length_eq, List.length_map]

/-- A spawner that never answers twice in the same way. -/
def counting : Spawner Nat := fun _ n => ⟨.failure "" n, [], n + 1⟩

/-- A call for a command, before which nothing has happened, that has found its slot empty. -/
def pending (c : Command) : SharedCache Nat where
  table := [(c.fingerprint, 0)]
  slots := [⟨c.fingerprint, none⟩]
  calls := [⟨c, 0, .missed⟩]
  spawner := 0

/-- The same cache after it has been cleared, a second call for the command has found its slot
empty, and then the first call, whose slot is not in the table any more, and the second have filled
their slots. -/
def overtaken (c : Command) : SharedCache Nat where
  table := [(c.fingerprint, 1)]
  slots := [⟨c.fingerprint, some (.failure "" 0)⟩, ⟨c.fingerprint, some (.failure "" 1)⟩]
  calls := [⟨c, 0, .returned (.failure "" 0)⟩, ⟨c, 1, .returned (.failure "" 1)⟩]
  spawns := [(0, c), (1, c)]
  spawner := 2

theorem run_pending (c : Command) : Run counting (start 0) [.enter c, .look 0] (pending c) :=
  .cons (.create rfl) (.cons (.miss rfl rfl rfl) .nil)

theorem run_overtaken (c : Command) :
    Run counting { pending c with table := [] } [.enter c, .look 1, .fill 0, .fill 1]
      (overtaken c) :=
  .cons (.create rfl) (.cons (.miss rfl rfl rfl) (.cons (.spawn rfl rfl rfl rfl)
    (.cons (.spawn rfl rfl rfl rfl) .nil)))

/-- The call that is made after clearing gets a slot and a result of its own. -/
theorem single_flight_overtaken :
    let c : Command := ⟨"yard", ["stats"]⟩
    Run counting (start 0) [.enter c, .look 0] (pending c) ∧
      (pending c).spawnsOf c.fingerprint ≤ 1 ∧ (pending c).len = 1 ∧
      (pending c).slots.length ≤ 1 ∧ (overtaken c).content? 1 = some (.failure "" 1) := by
  intro c
  obtain ⟨_, hspawns, _, hfresh, hlen⟩ := single_flight counting 0 _ _ (run_pending c)
  obtain ⟨hslot, hcontent⟩ := hfresh _ _ _ .clear (run_overtaken c) 1
    ⟨c, 1, .returned (.failure "" 1)⟩ (.failure "" 1) (Nat.le_refl 1) rfl rfl
  refine ⟨run_pending c, hspawns c.fingerprint, hlen.trans ?_, hslot, hcontent⟩
  simp [askedFrom]

end DocAudit.SharedCache
