import DocAudit.Proofs.Command.Cache
import DocAudit.Proofs.Lists

/-!
# A cache with several callers

`Cache.execute` is what a caller sees who has the cache to itself.  Callers that share a cache get
into each other's way: between looking up the entry of a fingerprint, reading it and filling it
other callers make steps of their own, and the cache may be cleared.  A caller that holds an entry
keeps it when the table is cleared, and may fill it afterwards.

`SharedCache` is the cache with all calls that are under way, `Step` what can happen next, and `Run`
any interleaving of steps.  Two things hold of every step, and so of every run:

* `Run.toExtends`: slots and calls stay, with what slots hold and what calls have returned;
* `Run.valid`: table, slots, calls and spawns are consistent.

`exists_run_start_eq_answers` ties this to `Cache`: calls that nobody interrupts do what
`Cache.execute` does.
-/

namespace DocAudit

/-- An entry.  It is made empty and may be filled once; the fingerprint is the one that it has been
made for. -/
structure Slot where
  fingerprint : Fingerprint
  content : Option Execution := none

/-- How far a call has got. -/
inductive Phase where
  /-- The call holds its slot. -/
  | holding
  /-- The call has found its slot empty. -/
  | missed
  | returned (x : Execution)

/-- A call for the result of a command. -/
structure Call where
  command : Command
  /-- The number of the slot that the call holds. -/
  slot : Nat
  phase : Phase

/-- A cache with several callers. -/
structure SharedCache (σ : Type) where
  /-- The slots of the current entries. -/
  table : List (Fingerprint × Nat) := []
  /-- All slots that have been made, also those that are not in the table any more. -/
  slots : List Slot := []
  /-- All calls that have been made. -/
  calls : List Call := []
  /-- The slots that have been filled, with the commands that have been spawned for them. -/
  spawns : List (Nat × Command) := []
  /-- The state of the spawner. -/
  spawner : σ

/-- What a caller does. -/
inductive Action where
  /-- Makes a call: gets or creates the slot for the command. -/
  | enter (c : Command)
  /-- Reads the slot of the call with the given number. -/
  | look (i : Nat)
  /-- Fills the slot of a call, or waits until it is filled, and returns its content. -/
  | fill (i : Nat)
  | clear
  deriving DecidableEq

namespace SharedCache

variable {σ : Type}

/-- A cache that has not been used. -/
def start (st : σ) : SharedCache σ := { spawner := st }

def slotOf? (w : SharedCache σ) (f : Fingerprint) : Option Nat :=
  (w.table.find? (·.1 = f)).map (·.2)

def content? (w : SharedCache σ) (n : Nat) : Option Execution := w.slots[n]?.bind (·.content)

def len (w : SharedCache σ) : Nat := w.table.length

def spawnsOf (w : SharedCache σ) (f : Fingerprint) : Nat :=
  w.spawns.countP (·.2.fingerprint = f)

/-- The cache with a further call. -/
def addCall (w : SharedCache σ) (c : Command) (n : Nat) : SharedCache σ :=
  { w with calls := w.calls ++ [⟨c, n, .holding⟩] }

/-- The cache with an empty slot for a further fingerprint. -/
def addSlot (w : SharedCache σ) (f : Fingerprint) : SharedCache σ :=
  { w with table := (f, w.slots.length) :: w.table, slots := w.slots ++ [⟨f, none⟩] }

/-- The cache after a call has got further. -/
def setPhase (w : SharedCache σ) (i : Nat) (call : Call) (p : Phase) : SharedCache σ :=
  { w with calls := w.calls.set i { call with phase := p } }

/-- The cache after a call has filled its slot. -/
def fillSlot (w : SharedCache σ) (call : Call) (slot : Slot) (s : Spawned σ) : SharedCache σ :=
  { w with
    slots := w.slots.set call.slot { slot with content := some s.execution }
    spawns := w.spawns ++ [(call.slot, call.command)]
    spawner := s.state }

/-- What can happen to a cache with several callers. -/
inductive Step (spawn : Spawner σ) : SharedCache σ → Action → SharedCache σ → Prop where
  /-- There is a slot for the command. -/
  | join {w : SharedCache σ} {c : Command} {n : Nat} (hn : w.slotOf? c.fingerprint = some n) :
    Step spawn w (.enter c) (w.addCall c n)
  /-- There is no slot for the command. -/
  | create {w : SharedCache σ} {c : Command} (hn : w.slotOf? c.fingerprint = none) :
    Step spawn w (.enter c) ((w.addSlot c.fingerprint).addCall c w.slots.length)
  /-- The slot of the call is filled. -/
  | hit {w : SharedCache σ} {i : Nat} {call : Call} {x : Execution} (hi : w.calls[i]? = some call)
      (hp : call.phase = .holding) (hx : w.content? call.slot = some x) :
    Step spawn w (.look i) (w.setPhase i call (.returned x))
  /-- The slot of the call is empty. -/
  | miss {w : SharedCache σ} {i : Nat} {call : Call} (hi : w.calls[i]? = some call)
      (hp : call.phase = .holding) (hx : w.content? call.slot = none) :
    Step spawn w (.look i) (w.setPhase i call .missed)
  /-- The slot of the call has been filled by another call. -/
  | late {w : SharedCache σ} {i : Nat} {call : Call} {x : Execution} (hi : w.calls[i]? = some call)
      (hp : call.phase = .missed) (hx : w.content? call.slot = some x) :
    Step spawn w (.fill i) (w.setPhase i call (.returned x))
  /-- The call fills its slot. -/
  | spawn {w : SharedCache σ} {i : Nat} {call : Call} {slot : Slot}
      (hi : w.calls[i]? = some call) (hp : call.phase = .missed)
      (hs : w.slots[call.slot]? = some slot) (he : slot.content = none) :
    Step spawn w (.fill i)
      ((w.fillSlot call slot (spawn call.command w.spawner)).setPhase i call
        (.returned (spawn call.command w.spawner).execution))
  /-- All entries are dropped; calls keep their slots. -/
  | clear {w : SharedCache σ} : Step spawn w .clear { w with table := [] }

/-- Any number of steps. -/
inductive Run (spawn : Spawner σ) : SharedCache σ → List Action → SharedCache σ → Prop where
  | nil {w : SharedCache σ} : Run spawn w [] w
  | cons {w v u : SharedCache σ} {a : Action} {as : List Action} (h : Step spawn w a v)
      (hs : Run spawn v as u) : Run spawn w (a :: as) u

variable {spawn : Spawner σ} {w v u : SharedCache σ} {a : Action} {as : List Action}

/-! ## What stays -/

/-- Slots and calls are never lost: slots keep their fingerprints and contents, and calls their
commands, slots and results. -/
structure Extends (w v : SharedCache σ) : Prop where
  slots : ∀ {n : Nat} {s : Slot}, w.slots[n]? = some s →
    ∃ t, v.slots[n]? = some t ∧ t.fingerprint = s.fingerprint ∧
      ∀ x, s.content = some x → t.content = some x
  calls : ∀ {i : Nat} {c : Call}, w.calls[i]? = some c →
    ∃ d, v.calls[i]? = some d ∧ d.command = c.command ∧ d.slot = c.slot ∧
      ∀ x, c.phase = .returned x → d.phase = .returned x

theorem Extends.refl (w : SharedCache σ) : Extends w w where
  slots h := ⟨_, h, rfl, fun _ hx => hx⟩
  calls h := ⟨_, h, rfl, rfl, fun _ hx => hx⟩

theorem Extends.trans (h : Extends w v) (h' : Extends v u) : Extends w u where
  slots hs := by
    obtain ⟨t, ht, hf, hc⟩ := h.slots hs
    obtain ⟨t', ht', hf', hc'⟩ := h'.slots ht
    exact ⟨t', ht', hf'.trans hf, fun x hx => hc' x (hc x hx)⟩
  calls hc := by
    obtain ⟨d, hd, hcmd, hslot, hp⟩ := h.calls hc
    obtain ⟨d', hd', hcmd', hslot', hp'⟩ := h'.calls hd
    exact ⟨d', hd', hcmd'.trans hcmd, hslot'.trans hslot, fun x hx => hp' x (hp x hx)⟩

theorem extends_addCall (w : SharedCache σ) (c : Command) (n : Nat) :
    Extends w (w.addCall c n) where
  slots h := ⟨_, h, rfl, fun _ hx => hx⟩
  calls h := ⟨_, getElem?_append_of_some h, rfl, rfl, fun _ hx => hx⟩

theorem extends_addSlot (w : SharedCache σ) (f : Fingerprint) : Extends w (w.addSlot f) where
  slots h := ⟨_, getElem?_append_of_some h, rfl, fun _ hx => hx⟩
  calls h := ⟨_, h, rfl, rfl, fun _ hx => hx⟩

theorem extends_setPhase {i : Nat} {call : Call} (hi : w.calls[i]? = some call)
    (hp : call.phase = .holding ∨ call.phase = .missed) (p : Phase) :
    Extends w (w.setPhase i call p) where
  slots h := ⟨_, h, rfl, fun _ hx => hx⟩
  calls {j c} hc := by
    obtain ⟨hlt, _⟩ := List.getElem?_eq_some_iff.1 hi
    by_cases hij : i = j
    · subst hij
      cases hi.symm.trans hc
      refine ⟨_, List.getElem?_set_self hlt, rfl, rfl, fun x hx => ?_⟩
      rcases hp with hp | hp <;> cases hp.symm.trans hx
    · exact ⟨c, by rw [setPhase, List.getElem?_set_ne hij, hc], rfl, rfl, fun _ hx => hx⟩

theorem extends_fillSlot {call : Call} {slot : Slot} (hs : w.slots[call.slot]? = some slot)
    (he : slot.content = none) (s : Spawned σ) : Extends w (w.fillSlot call slot s) where
  slots {n t} ht := by
    obtain ⟨hlt, _⟩ := List.getElem?_eq_some_iff.1 hs
    by_cases hn : call.slot = n
    · subst hn
      cases hs.symm.trans ht
      refine ⟨_, List.getElem?_set_self hlt, rfl, fun x hx => ?_⟩
      rw [he] at hx
      cases hx
    · exact ⟨t, by rw [fillSlot, List.getElem?_set_ne hn, ht], rfl, fun _ hx => hx⟩
  calls h := ⟨_, h, rfl, rfl, fun _ hx => hx⟩

theorem Step.toExtends (h : Step spawn w a v) : Extends w v := by
  cases h with
  | join hn => exact extends_addCall w _ _
  | create hn => exact (extends_addSlot w _).trans (extends_addCall _ _ _)
  | hit hi hp hx => exact extends_setPhase hi (.inl hp) _
  | miss hi hp hx => exact extends_setPhase hi (.inl hp) _
  | late hi hp hx => exact extends_setPhase hi (.inr hp) _
  | spawn hi hp hs he =>
    exact (extends_fillSlot hs he _).trans
      (extends_setPhase (w := fillSlot _ _ _ _) hi (.inr hp) _)
  | clear => exact ⟨fun h => ⟨_, h, rfl, fun _ hx => hx⟩, fun h => ⟨_, h, rfl, rfl, fun _ hx => hx⟩⟩

theorem Run.toExtends (h : Run spawn w as v) : Extends w v := by
  induction h with
  | nil => exact .refl _
  | cons h _ ih => exact h.toExtends.trans ih

theorem Extends.content?_eq (h : Extends w v) {n : Nat} {x : Execution}
    (hx : w.content? n = some x) : v.content? n = some x := by
  obtain ⟨s, hs, hc⟩ := Option.bind_eq_some_iff.1 hx
  obtain ⟨t, ht, _, hc'⟩ := h.slots hs
  exact Option.bind_eq_some_iff.2 ⟨t, ht, hc' x hc⟩

/-! ## What holds of every cache that is in use -/

theorem slotOf?_addSlot (w : SharedCache σ) (f g : Fingerprint) :
    (w.addSlot g).slotOf? f = if g = f then some w.slots.length else w.slotOf? f := by
  unfold slotOf? addSlot
  rw [List.find?_cons]
  by_cases h : g = f <;> simp [h]

theorem mem_keys_iff (w : SharedCache σ) (f : Fingerprint) :
    f ∈ w.table.map (·.1) ↔ (w.slotOf? f).isSome = true := by
  unfold slotOf?
  rw [Option.isSome_map, List.find?_isSome, List.mem_map]
  simp

/-- The slot of a call is one that has been made for its fingerprint, and holds what the call has
returned. -/
def Holds (slots : List Slot) (c : Call) : Prop :=
  ∃ s, slots[c.slot]? = some s ∧ s.fingerprint = c.command.fingerprint ∧
    ∀ x, c.phase = .returned x → s.content = some x

/-- The consistency of table, slots, calls and spawns. -/
structure Valid (w : SharedCache σ) : Prop where
  keys : (w.table.map (·.1)).Nodup
  table : ∀ f n, w.slotOf? f = some n → ∃ s, w.slots[n]? = some s ∧ s.fingerprint = f
  calls : ∀ c ∈ w.calls, Holds w.slots c
  filled : ∀ p ∈ w.spawns, (w.content? p.1).isSome = true
  once : (w.spawns.map (·.1)).Nodup
  counted : ∀ f, w.spawnsOf f =
    w.slots.countP fun s => decide (s.fingerprint = f) && s.content.isSome

theorem valid_start (st : σ) : (start st).Valid where
  keys := List.nodup_nil
  table _ _ h := by cases h
  calls _ h := by cases h
  filled _ h := by cases h
  once := List.nodup_nil
  counted _ := rfl

theorem Extends.holds (h : Extends w v) {c : Call} (hc : Holds w.slots c) : Holds v.slots c := by
  obtain ⟨s, hs, hf, hx⟩ := hc
  obtain ⟨t, ht, hft, hxt⟩ := h.slots hs
  exact ⟨t, ht, hft.trans hf, fun x hp => hxt x (hx x hp)⟩

theorem Holds.content?_eq {c : Call} {x : Execution} (h : Holds w.slots c)
    (hx : c.phase = .returned x) : w.content? c.slot = some x := by
  obtain ⟨s, hs, _, hc⟩ := h
  exact Option.bind_eq_some_iff.2 ⟨s, hs, hc x hx⟩

theorem Valid.table_of_extends (hw : w.Valid) (h : Extends w v) {f : Fingerprint} {n : Nat}
    (hn : w.slotOf? f = some n) : ∃ s, v.slots[n]? = some s ∧ s.fingerprint = f := by
  obtain ⟨s, hs, hf⟩ := hw.table f n hn
  obtain ⟨t, ht, hft, _⟩ := h.slots hs
  exact ⟨t, ht, hft.trans hf⟩

/-- A call that has got further keeps a consistent cache, if what it returns is in its slot. -/
theorem Valid.setPhase (hw : w.Valid) {i : Nat} {call : Call} {p : Phase}
    (hi : w.calls[i]? = some call)
    (hp : ∀ x, p = .returned x → w.content? call.slot = some x) :
    (w.setPhase i call p).Valid where
  keys := hw.keys
  table := hw.table
  filled := hw.filled
  once := hw.once
  counted := hw.counted
  calls c hc := by
    rcases List.mem_or_eq_of_mem_set hc with hc | rfl
    · exact hw.calls c hc
    · obtain ⟨s, hs, hf, _⟩ := hw.calls call (List.mem_of_getElem? hi)
      refine ⟨s, hs, hf, fun x hx => ?_⟩
      obtain ⟨t, ht, hc⟩ := Option.bind_eq_some_iff.1 (hp x hx)
      cases hs.symm.trans ht
      exact hc

theorem content?_fillSlot_self {call : Call} {slot : Slot} (hs : w.slots[call.slot]? = some slot)
    (s : Spawned σ) : (w.fillSlot call slot s).content? call.slot = some s.execution := by
  obtain ⟨hlt, _⟩ := List.getElem?_eq_some_iff.1 hs
  unfold content? fillSlot
  rw [List.getElem?_set_self hlt]
  rfl

theorem Valid.fillSlot (hw : w.Valid) {call : Call} {slot : Slot}
    (hs : w.slots[call.slot]? = some slot) (hf : slot.fingerprint = call.command.fingerprint)
    (he : slot.content = none) (s : Spawned σ) : (w.fillSlot call slot s).Valid := by
  have hext : Extends w (w.fillSlot call slot s) := extends_fillSlot hs he s
  obtain ⟨hlt, hget⟩ := List.getElem?_eq_some_iff.1 hs
  refine ⟨hw.keys, fun f n hn => hw.table_of_extends hext hn,
    fun c hc => hext.holds (hw.calls c hc), ?_, ?_, ?_⟩
  · intro p hp
    rcases List.mem_append.1 hp with hp | hp
    · obtain ⟨x, hx⟩ := Option.isSome_iff_exists.1 (hw.filled p hp)
      rw [hext.content?_eq hx]
      rfl
    · cases List.mem_singleton.1 hp
      rw [content?_fillSlot_self hs]
      rfl
  · -- a slot that has been filled before would not be empty
    unfold SharedCache.fillSlot
    rw [List.map_append, List.map_singleton, List.nodup_append]
    refine ⟨hw.once, by simp, ?_⟩
    rintro n hn m hm rfl
    obtain ⟨p, hp, rfl⟩ := List.mem_map.1 hn
    have hfilled := hw.filled p hp
    rw [List.mem_singleton.1 hm, content?, hs, Option.bind_some, he] at hfilled
    cases hfilled
  · intro f
    have hcount := hw.counted f
    unfold spawnsOf SharedCache.fillSlot at *
    simp only [List.countP_append, List.countP_singleton, List.countP_set hlt, hget, hcount, he]
    by_cases hff : call.command.fingerprint = f
    · simp [hf, hff]
    · simp [hf, hff]

theorem Valid.addCall (hw : w.Valid) {c : Command} {n : Nat} {s : Slot}
    (hs : w.slots[n]? = some s) (hf : s.fingerprint = c.fingerprint) : (w.addCall c n).Valid := by
  refine ⟨hw.keys, hw.table, ?_, hw.filled, hw.once, hw.counted⟩
  intro d hd
  rcases List.mem_append.1 hd with hd | hd
  · exact hw.calls d hd
  · cases List.mem_singleton.1 hd
    exact ⟨s, hs, hf, fun x hx => by cases hx⟩

theorem getElem?_addSlot (w : SharedCache σ) (f : Fingerprint) :
    (w.addSlot f).slots[w.slots.length]? = some ⟨f, none⟩ := by
  simp [addSlot]

theorem Valid.addSlot (hw : w.Valid) {f : Fingerprint} (hf : w.slotOf? f = none) :
    (w.addSlot f).Valid := by
  have hext := extends_addSlot w f
  refine ⟨?_, ?_, fun d hd => hext.holds (hw.calls d hd), ?_, hw.once, ?_⟩
  · unfold SharedCache.addSlot
    rw [List.map_cons, List.nodup_cons, mem_keys_iff, hf]
    exact ⟨Bool.false_ne_true, hw.keys⟩
  · intro g n hg
    rw [slotOf?_addSlot] at hg
    split at hg
    · rename_i hfg
      cases hg
      exact ⟨_, w.getElem?_addSlot f, hfg⟩
    · exact hw.table_of_extends hext hg
  · intro p hp
    obtain ⟨x, hx⟩ := Option.isSome_iff_exists.1 (hw.filled p hp)
    rw [hext.content?_eq hx]
    rfl
  · intro g
    have hcount := hw.counted g
    unfold spawnsOf SharedCache.addSlot at *
    rw [List.countP_append, List.countP_singleton, hcount]
    simp

theorem Step.valid (h : Step spawn w a v) (hw : w.Valid) : v.Valid := by
  cases h with
  | @join c n hn =>
    obtain ⟨s, hs, hf⟩ := hw.table _ _ hn
    exact hw.addCall hs hf
  | @create c hn => exact (hw.addSlot hn).addCall (w.getElem?_addSlot c.fingerprint) rfl
  | hit hi hp hx =>
    exact hw.setPhase hi fun y hy => by cases hy; exact hx
  | miss hi hp hx =>
    exact hw.setPhase hi fun y hy => by cases hy
  | late hi hp hx =>
    exact hw.setPhase hi fun y hy => by cases hy; exact hx
  | @spawn i call slot hi hp hs he =>
    obtain ⟨s, hs', hf, _⟩ := hw.calls call (List.mem_of_getElem? hi)
    cases hs.symm.trans hs'
    refine (hw.fillSlot hs hf he _).setPhase (w := w.fillSlot _ _ _) hi fun y hy => ?_
    cases hy
    exact content?_fillSlot_self hs _
  | clear =>
    exact ⟨List.nodup_nil, fun _ _ h => (by cases h), hw.calls, hw.filled, hw.once, hw.counted⟩

theorem Run.valid (h : Run spawn w as v) (hw : w.Valid) : v.Valid := by
  induction h with
  | nil => exact hw
  | cons h _ ih => exact ih (h.valid hw)

/-! ## A caller alone -/

/-- All entries are filled, with the results that the cache has stored. -/
structure Shows (w : SharedCache σ) (cache : Cache) : Prop where
  get? : ∀ f, cache.get? f = (w.slotOf? f).bind w.content?
  filled : ∀ f n, w.slotOf? f = some n → (w.content? n).isSome = true

theorem shows_start (st : σ) : (start st).Shows {} := ⟨fun _ => rfl, fun _ _ h => (by cases h)⟩

theorem shows_clear (w : SharedCache σ) (cache : Cache) :
    ({ w with table := [] } : SharedCache σ).Shows cache.clear :=
  ⟨fun _ => rfl, fun _ _ h => (by cases h)⟩

/-- The cache after a call has got a slot, found it empty and filled it. -/
def afterSpawn (w : SharedCache σ) (c : Command) (s : Spawned σ) : SharedCache σ where
  table := (c.fingerprint, w.slots.length) :: w.table
  slots := w.slots ++ [⟨c.fingerprint, some s.execution⟩]
  calls := w.calls ++ [⟨c, w.slots.length, .returned s.execution⟩]
  spawns := w.spawns ++ [(w.slots.length, c)]
  spawner := s.state

theorem run_afterSpawn {c : Command} (hn : w.slotOf? c.fingerprint = none) :
    Run spawn w [.enter c, .look w.calls.length, .fill w.calls.length]
      (w.afterSpawn c (spawn c w.spawner)) := by
  have hslot := w.getElem?_addSlot c.fingerprint
  have hempty : (w.addSlot c.fingerprint).content? w.slots.length = none := by
    rw [content?, hslot]
    rfl
  have hcall : ∀ p : Phase, (w.calls ++ [⟨c, w.slots.length, p⟩])[w.calls.length]? =
      some ⟨c, w.slots.length, p⟩ := fun p => by simp
  have hlook : ((w.addSlot c.fingerprint).addCall c w.slots.length).setPhase w.calls.length
      ⟨c, w.slots.length, .holding⟩ .missed =
        { w.addSlot c.fingerprint with calls := w.calls ++ [⟨c, w.slots.length, .missed⟩] } := by
    simp [setPhase, addCall, addSlot]
  refine .cons (.create hn) (.cons (.miss (hcall .holding) rfl hempty) ?_)
  rw [hlook]
  have hfill : Step spawn
      { w.addSlot c.fingerprint with calls := w.calls ++ [⟨c, w.slots.length, .missed⟩] }
      (.fill w.calls.length) _ := .spawn (hcall .missed) rfl hslot rfl
  have hafter : (fillSlot
      { w.addSlot c.fingerprint with calls := w.calls ++ [⟨c, w.slots.length, .missed⟩] }
      ⟨c, w.slots.length, .missed⟩ ⟨c.fingerprint, none⟩ (spawn c w.spawner)).setPhase
        w.calls.length ⟨c, w.slots.length, .missed⟩
        (.returned (spawn c w.spawner).execution) = w.afterSpawn c (spawn c w.spawner) := by
    simp [setPhase, fillSlot, addSlot, afterSpawn]
  exact .cons (hafter ▸ hfill) .nil

/-- A call that nobody interrupts returns the result that the cache gives, spawns when the cache
spawns, and leaves the entries that the cache has stored. -/
theorem exists_run_eq_execute (spawn : Spawner σ) {cache : Cache} (hshows : w.Shows cache)
    (c : Command) :
    ∃ as v call, Run spawn w as v ∧ v.calls = w.calls ++ [call] ∧
      call.phase = .returned (cache.execute spawn c w.spawner).execution ∧
      v.Shows (cache.execute spawn c w.spawner).cache ∧
      v.spawner = (cache.execute spawn c w.spawner).state := by
  cases hget : cache.get? c.fingerprint with
  | some x =>
    rw [Cache.execute_of_hit hget]
    rw [hshows.get?] at hget
    obtain ⟨n, hn, hx⟩ := Option.bind_eq_some_iff.1 hget
    have hcall : (w.addCall c n).calls[w.calls.length]? = some ⟨c, n, .holding⟩ := by
      simp [addCall]
    exact ⟨_, _, ⟨c, n, .returned x⟩, .cons (.join hn) (.cons (.hit hcall rfl hx) .nil),
      by simp [setPhase, addCall], rfl, ⟨hshows.get?, hshows.filled⟩, rfl⟩
  | none =>
    have hn : w.slotOf? c.fingerprint = none := by
      rw [hshows.get?, Option.bind_eq_none_iff] at hget
      cases hslot : w.slotOf? c.fingerprint with
      | none => rfl
      | some n =>
        have hfilled := hshows.filled _ n hslot
        rw [hget n hslot] at hfilled
        cases hfilled
    refine ⟨_, _, _, run_afterSpawn hn, rfl, ?_, ?_, ?_⟩
    · rw [Cache.execute_of_miss hget]
    · have hslot : ∀ f, (w.afterSpawn c (spawn c w.spawner)).slotOf? f =
          if c.fingerprint = f then some w.slots.length else w.slotOf? f :=
        fun f => w.slotOf?_addSlot f c.fingerprint
      have hnew : (w.afterSpawn c (spawn c w.spawner)).content? w.slots.length =
          some (spawn c w.spawner).execution := by
        simp [content?, afterSpawn]
      -- the entries that were there are filled, and stay what they are
      have hold : ∀ f n, w.slotOf? f = some n →
          (w.afterSpawn c (spawn c w.spawner)).content? n = w.content? n := by
        intro f n hf
        obtain ⟨x, hx⟩ := Option.isSome_iff_exists.1 (hshows.filled f n hf)
        rw [hx, (run_afterSpawn hn).toExtends.content?_eq hx]
      constructor
      · intro f
        rw [Cache.get?_execute, hslot, Cache.execute_of_miss hget, hshows.get? f]
        split
        · exact hnew.symm
        · cases hf : w.slotOf? f with
          | none => rfl
          | some n => exact (hold f n hf).symm
      · intro f n hf
        rw [hslot] at hf
        split at hf
        · cases hf
          rw [hnew]
          rfl
        · rw [hold f n hf]
          exact hshows.filled f n hf
    · rw [Cache.execute_of_miss hget]
      rfl

theorem Run.append {bs : List Action} (h : Run spawn w as v) (h' : Run spawn v bs u) :
    Run spawn w (as ++ bs) u := by
  induction h with
  | nil => exact h'
  | cons h _ ih => exact .cons h (ih h')

/-- The results that a caller gets who has the cache to itself and asks for the results of
commands, or clears the cache where there is none. -/
def answers (spawn : Spawner σ) : Cache → σ → List (Option Command) → List Execution
  | _, _, [] => []
  | cache, st, none :: rs => answers spawn cache.clear st rs
  | cache, st, some c :: rs =>
    let x := cache.execute spawn c st
    x.execution :: answers spawn x.cache x.state rs

theorem exists_run_eq_answers : ∀ (rs : List (Option Command)) {w : SharedCache σ} {cache : Cache},
    w.Shows cache → ∃ as v calls, Run spawn w as v ∧ v.calls = w.calls ++ calls ∧
      calls.map (·.phase) = (answers spawn cache w.spawner rs).map .returned
  | [], w, _, _ => ⟨[], w, [], .nil, (List.append_nil _).symm, rfl⟩
  | none :: rs, w, cache, _ => by
    obtain ⟨as, v, calls, hrun, hcalls, hresults⟩ :=
      exists_run_eq_answers rs (w.shows_clear cache)
    exact ⟨.clear :: as, v, calls, .cons .clear hrun, hcalls, hresults⟩
  | some c :: rs, w, cache, hshows => by
    obtain ⟨as, v, call, hrun, hcalls, hphase, hshows', hspawner⟩ :=
      exists_run_eq_execute spawn hshows c
    obtain ⟨bs, u, calls, hrun', hcalls', hresults⟩ :=
      exists_run_eq_answers rs hshows'
    refine ⟨as ++ bs, u, call :: calls, hrun.append hrun', ?_, ?_⟩
    · rw [hcalls', hcalls, List.append_assoc, List.singleton_append]
    · rw [List.map_cons, hphase, hresults, hspawner]
      rfl

/-- **Calls one after the other do what the cache does.** -/
theorem exists_run_start_eq_answers (spawn : Spawner σ) (st : σ) (rs : List (Option Command)) :
    ∃ as v, Run spawn (start st) as v ∧
      v.calls.map (·.phase) = (answers spawn {} st rs).map .returned := by
  obtain ⟨as, v, calls, hrun, hcalls, hresults⟩ := exists_run_eq_answers rs (shows_start st)
  exact ⟨as, v, hrun, by rw [hcalls]; exact hresults⟩

end SharedCache

end DocAudit
