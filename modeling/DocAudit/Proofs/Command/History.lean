import DocAudit.Proofs.Command.Cache
import Mathlib.Data.Finset.Card

/-!
# Histories of a command cache

A cache is used by executing commands and by clearing it, in any order.  What it does next is
settled by the requests since the last clear:

* `epoch` are the commands of these requests, `IsFirst` singles out the first of them for a
  fingerprint;
* `Spawner.recording` makes visible which commands are spawned;
* `first_request_decides` says that a command is spawned by the first request for its fingerprint
  and by no other, that all of these requests return what was spawned then, and that the size of
  the cache is the number of different fingerprints.

The invariant is `get?_serve`: what is stored for a fingerprint is the result of the first request.

`Service.executeAll` is for a cache that is not empty at first and not cleared; what it spawns is
counted by `Service.spawned_executeAll`.
-/

namespace DocAudit

variable {σ : Type}

/-- The spawner that also keeps the commands that it has been asked for, in order. -/
def Spawner.recording (spawn : Spawner σ) : Spawner (σ × List Command) := fun c st =>
  let s := spawn c st.1
  ⟨s.execution, s.log, (s.state, st.2 ++ [c])⟩

namespace Cache

/-! ## Stored fingerprints -/

/-- The fingerprints with a stored result, in the order in which the results were stored. -/
def keys (c : Cache) : List Fingerprint := c.entries.map (·.1)

theorem length_keys (c : Cache) : c.keys.length = c.size := List.length_map _

theorem get?_eq_none_iff {c : Cache} {f : Fingerprint} : c.get? f = none ↔ f ∉ c.keys := by
  unfold get? keys
  rw [Option.map_eq_none_iff, List.find?_eq_none, List.mem_map]
  constructor
  · rintro h ⟨e, he, hf⟩
    exact h e he (decide_eq_true hf)
  · intro h e he hf
    exact h ⟨e, he, of_decide_eq_true hf⟩

/-- An execution stores the fingerprint of its command, unless it is stored already. -/
theorem keys_execute (spawn : Spawner σ) (cache : Cache) (c : Command) (st : σ) :
    (cache.execute spawn c st).cache.keys =
      cache.keys ++ if c.fingerprint ∈ cache.keys then [] else [c.fingerprint] := by
  cases h : cache.get? c.fingerprint with
  | some x =>
    have hmem : c.fingerprint ∈ cache.keys := by
      by_contra hn
      rw [get?_eq_none_iff.2 hn] at h
      cases h
    rw [execute_of_hit h, if_pos hmem, List.append_nil]
  | none =>
    rw [execute_of_miss h, if_neg (get?_eq_none_iff.1 h)]
    simp [keys]

/-- A command is spawned if its fingerprint is not stored. -/
theorem spawned_execute (spawn : Spawner σ) (cache : Cache) (c : Command)
    (st : σ × List Command) :
    (cache.execute spawn.recording c st).state.2 =
      st.2 ++ if c.fingerprint ∈ cache.keys then [] else [c] := by
  by_cases hmem : c.fingerprint ∈ cache.keys
  · obtain ⟨x, hx⟩ := Option.ne_none_iff_exists'.1 (mt get?_eq_none_iff.1 (not_not.2 hmem))
    rw [execute_of_hit hx, if_pos hmem, List.append_nil]
  · rw [execute_of_miss (get?_eq_none_iff.2 hmem), if_neg hmem]
    rfl

theorem mem_keys_execute {spawn : Spawner σ} {cache : Cache} {c : Command} {st : σ}
    {f : Fingerprint} :
    f ∈ (cache.execute spawn c st).cache.keys ↔ f ∈ cache.keys ∨ f = c.fingerprint := by
  rw [keys_execute]
  split
  · rename_i hmem
    rw [List.append_nil]
    constructor
    · exact Or.inl
    · rintro (h | rfl)
      · exact h
      · exact hmem
  · simp

/-! ## Requests -/

/-- What can be asked of a cache. -/
inductive Request where
  | execute (command : Command)
  | clear
  deriving DecidableEq, Repr

/-- A cache with the state of its spawner. -/
structure Service (σ : Type) where
  cache : Cache := {}
  spawner : σ

/-- What a request leaves behind. -/
def Service.next (spawn : Spawner σ) (s : Service σ) : Request → Service σ
  | .execute c =>
    let x := s.cache.execute spawn c s.spawner
    ⟨x.cache, x.state⟩
  | .clear => ⟨s.cache.clear, s.spawner⟩

/-- A cache that was empty, after requests one after the other.  The spawned commands are kept. -/
def serve (spawn : Spawner σ) (st : σ) (rs : List Request) : Service (σ × List Command) :=
  rs.foldl (Service.next spawn.recording) ⟨{}, (st, [])⟩

/-- The commands that have been executed since the last clear. -/
def epoch (rs : List Request) : List Command :=
  rs.foldl (fun cs r => match r with
    | .execute c => cs ++ [c]
    | .clear => []) []

/-- The fingerprints of these commands. -/
def asked (rs : List Request) : List Fingerprint := (epoch rs).map (·.fingerprint)

/-- The command of a request that is the first one for its fingerprint, if `before` are the requests
before it. -/
def first? (before : List Request) : Request → Option Command
  | .execute c => if c.fingerprint ∈ asked before then none else some c
  | .clear => none

/-- The commands of the requests that are the first ones for their fingerprints, in order. -/
def firsts (rs : List Request) : List Command :=
  (List.range rs.length).filterMap fun i => rs[i]?.bind (first? (rs.take i))

/-- Of the requests since the last clear, the one for `d` that comes after `front` is the first for
the fingerprint. -/
structure IsFirst (rs : List Request) (f : Fingerprint) (front : List Request) (d : Command) :
    Prop where
  split : ∃ back, rs = front ++ .execute d :: back ∧ Request.clear ∉ back
  fingerprint : d.fingerprint = f
  fresh : f ∉ asked front

variable {spawn : Spawner σ} {st : σ} {rs : List Request} {r : Request} {c d : Command}
  {f : Fingerprint} {front : List Request}

theorem serve_append_execute (spawn : Spawner σ) (st : σ) (rs : List Request) (c : Command) :
    serve spawn st (rs ++ [.execute c]) =
      ⟨((serve spawn st rs).cache.execute spawn.recording c (serve spawn st rs).spawner).cache,
        ((serve spawn st rs).cache.execute spawn.recording c
          (serve spawn st rs).spawner).state⟩ := by
  unfold serve
  rw [List.foldl_append]
  rfl

theorem serve_append_clear (spawn : Spawner σ) (st : σ) (rs : List Request) :
    serve spawn st (rs ++ [.clear]) = ⟨{}, (serve spawn st rs).spawner⟩ := by
  unfold serve
  rw [List.foldl_append]
  rfl

@[simp] theorem asked_append_execute (rs : List Request) (c : Command) :
    asked (rs ++ [.execute c]) = asked rs ++ [c.fingerprint] := by
  unfold asked epoch
  rw [List.foldl_append]
  simp

@[simp] theorem asked_append_clear (rs : List Request) : asked (rs ++ [.clear]) = [] := by
  unfold asked epoch
  rw [List.foldl_append]
  rfl

theorem firsts_append_singleton (rs : List Request) (r : Request) :
    firsts (rs ++ [r]) = firsts rs ++ (first? rs r).toList := by
  unfold firsts
  rw [List.length_append, List.length_singleton, List.range_succ, List.filterMap_append]
  congr 1
  · refine List.filterMap_congr fun i hi => ?_
    have hlt : i < rs.length := List.mem_range.1 hi
    rw [List.getElem?_append_left hlt, List.take_append_of_le_length (Nat.le_of_lt hlt)]
  · have hlast : (rs ++ [r])[rs.length]? = some r := by simp
    have htake : (rs ++ [r]).take rs.length = rs := by simp
    rw [List.filterMap_cons, List.filterMap_nil, hlast, htake, Option.bind_some]
    cases first? rs r <;> rfl

/-! ## First requests -/

/-- A request among some that end with `r` is `r` itself or comes before it. -/
theorem append_singleton_eq_append_cons {back : List Request} {q : Request}
    (h : rs ++ [r] = front ++ q :: back) :
    (back = [] ∧ front = rs ∧ q = r) ∨ ∃ back', back = back' ++ [r] ∧ rs = front ++ q :: back' := by
  rcases List.eq_nil_or_concat back with rfl | ⟨back', p, rfl⟩
  · obtain ⟨hrs, hr⟩ := List.append_inj' h rfl
    cases hr
    exact .inl ⟨rfl, hrs.symm, rfl⟩
  · have hassoc : front ++ q :: back'.concat p = (front ++ q :: back') ++ [p] := by simp
    obtain ⟨hrs, hr⟩ := List.append_inj' (h.trans hassoc) rfl
    cases hr
    exact .inr ⟨back', List.concat_eq_append, hrs⟩

/-- The first request is the one that has just come, or it was the first one before. -/
theorem isFirst_append_execute :
    IsFirst (rs ++ [.execute c]) f front d ↔
      IsFirst rs f front d ∨ (f ∉ asked rs ∧ c.fingerprint = f ∧ front = rs ∧ d = c) := by
  constructor
  · rintro ⟨⟨back, hsplit, hback⟩, hf, hfresh⟩
    rcases append_singleton_eq_append_cons hsplit with ⟨_, rfl, hd⟩ | ⟨back', rfl, hrs⟩
    · cases hd
      exact .inr ⟨hfresh, hf, rfl, rfl⟩
    · exact .inl ⟨⟨back', hrs, fun hm => hback (List.mem_append_left _ hm)⟩, hf, hfresh⟩
  · rintro (⟨⟨back, rfl, hback⟩, hf, hfresh⟩ | ⟨hfresh, hf, rfl, rfl⟩)
    · refine ⟨⟨back ++ [.execute c], by simp, ?_⟩, hf, hfresh⟩
      simpa using hback
    · exact ⟨⟨[], rfl, List.not_mem_nil⟩, hf, hfresh⟩

theorem not_isFirst_append_clear : ¬IsFirst (rs ++ [.clear]) f front d := by
  rintro ⟨⟨back, hsplit, hback⟩, _, _⟩
  rcases append_singleton_eq_append_cons hsplit with ⟨_, _, hd⟩ | ⟨back', rfl, _⟩
  · cases hd
  · exact hback (List.mem_append_right _ List.mem_cons_self)

theorem exists_isFirst (h : f ∈ asked rs) : ∃ front d, IsFirst rs f front d := by
  induction rs using List.reverseRecOn with
  | nil => cases h
  | append_singleton rs r ih =>
    cases r with
    | clear => simp at h
    | execute c =>
      simp only [isFirst_append_execute]
      by_cases hf : f ∈ asked rs
      · obtain ⟨front, d, hfirst⟩ := ih hf
        exact ⟨front, d, .inl hfirst⟩
      · have hc : c.fingerprint = f := by simpa [hf, eq_comm] using h
        exact ⟨rs, c, .inr ⟨hf, hc, rfl, rfl⟩⟩

/-! ## The invariant -/

/-- The stored fingerprints are those asked for since the last clear, each once. -/
theorem keys_serve (spawn : Spawner σ) (st : σ) (rs : List Request) :
    (serve spawn st rs).cache.keys.Nodup ∧
      ∀ f, f ∈ (serve spawn st rs).cache.keys ↔ f ∈ asked rs := by
  induction rs using List.reverseRecOn with
  | nil => exact ⟨List.nodup_nil, fun f => Iff.rfl⟩
  | append_singleton rs r ih =>
    obtain ⟨hnodup, hmem⟩ := ih
    cases r with
    | clear =>
      rw [serve_append_clear, asked_append_clear]
      exact ⟨List.nodup_nil, fun f => Iff.rfl⟩
    | execute c =>
      rw [serve_append_execute]
      constructor
      · simp only [keys_execute]
        split
        · rw [List.append_nil]
          exact hnodup
        · rename_i hnot
          refine List.nodup_append.2 ⟨hnodup, List.nodup_singleton _, ?_⟩
          rintro g hg _ hc rfl
          exact hnot (List.mem_singleton.1 hc ▸ hg)
      · intro f
        simp only [mem_keys_execute, hmem, asked_append_execute, List.mem_append,
          List.mem_singleton]

/-- **What is stored is the result of the first request.** -/
theorem get?_serve (spawn : Spawner σ) (st : σ) (h : IsFirst rs f front d) :
    (serve spawn st rs).cache.get? f =
      some (spawn d (serve spawn st front).spawner.1).execution := by
  induction rs using List.reverseRecOn with
  | nil =>
    obtain ⟨back, hsplit, _⟩ := h.split
    simp at hsplit
  | append_singleton rs r ih =>
    cases r with
    | clear => exact absurd h not_isFirst_append_clear
    | execute c =>
      rw [serve_append_execute]
      simp only
      rw [get?_execute]
      rcases isFirst_append_execute.1 h with hold | ⟨hfresh, hc, rfl, rfl⟩
      · split
        · rename_i hc
          rw [← hc] at ih hold
          rw [execute_of_hit (ih hold)]
        · exact ih hold
      · have hmiss : (serve spawn st front).cache.get? d.fingerprint = none := by
          rw [get?_eq_none_iff, (keys_serve spawn st front).2, hc]
          exact hfresh
        rw [if_pos hc, execute_of_miss hmiss]
        rfl

theorem spawned_serve (spawn : Spawner σ) (st : σ) (rs : List Request) :
    (serve spawn st rs).spawner.2 = firsts rs := by
  induction rs using List.reverseRecOn with
  | nil => rfl
  | append_singleton rs r ih =>
    rw [firsts_append_singleton]
    cases r with
    | clear =>
      rw [serve_append_clear, ih]
      simp [first?]
    | execute c =>
      rw [serve_append_execute]
      simp only [spawned_execute, ih, (keys_serve spawn st rs).2]
      simp only [first?]
      split <;> rfl

theorem size_serve (spawn : Spawner σ) (st : σ) (rs : List Request) :
    (serve spawn st rs).cache.size = (asked rs).toFinset.card := by
  obtain ⟨hnodup, hmem⟩ := keys_serve spawn st rs
  have hset : (serve spawn st rs).cache.keys.toFinset = (asked rs).toFinset := by
    ext f
    rw [List.mem_toFinset, List.mem_toFinset, hmem]
  rw [← hset, List.toFinset_card_of_nodup hnodup, length_keys]

/-- **The first request since the last clear decides.**  After any requests `rs` to a cache that
    was empty, executing a command spawns it if and only if its fingerprint has not been asked for
    since the last clear, and gives the result that the first request for the fingerprint has had
    spawned, whether the command failed or not.  The commands spawned so far are those of the first
    requests, in order, and the size of the cache is the number of different fingerprints asked
    for since the last clear. -/
theorem first_request_decides (spawn : Spawner σ) (st : σ) (rs : List Request) :
    (∀ c, let x := (serve spawn st rs).cache.execute spawn.recording c (serve spawn st rs).spawner
      (x.state.2 = (serve spawn st rs).spawner.2 ++
        if c.fingerprint ∈ asked rs then [] else [c]) ∧
      ∃ front d, IsFirst (rs ++ [.execute c]) c.fingerprint front d ∧
        x.execution = (spawn d (serve spawn st front).spawner.1).execution) ∧
    (serve spawn st rs).spawner.2 = firsts rs ∧
    (serve spawn st rs).cache.size = (asked rs).toFinset.card ∧
    ((serve spawn st rs).cache.isEmpty = true ↔ (asked rs).toFinset.card = 0) := by
  refine ⟨fun c => ⟨?_, ?_⟩, spawned_serve spawn st rs, size_serve spawn st rs, ?_⟩
  · simp only [spawned_execute, (keys_serve spawn st rs).2]
  · have hasked : c.fingerprint ∈ asked (rs ++ [.execute c]) := by simp
    obtain ⟨front, d, hfirst⟩ := exists_isFirst hasked
    refine ⟨front, d, hfirst, ?_⟩
    -- the result is what is stored afterwards
    have hstored := get?_serve spawn st hfirst
    rw [serve_append_execute] at hstored
    simp only [get?_execute, if_true] at hstored
    exact Option.some.inj hstored
  · rw [← size_serve spawn st rs]
    unfold isEmpty size
    rw [List.isEmpty_iff, List.length_eq_zero_iff]

/-! ## Commands in turn -/

/-- A service after it has executed commands in turn. -/
def Service.executeAll (spawn : Spawner σ) (s : Service σ) (cs : List Command) : Service σ :=
  cs.foldl (fun s c => s.next spawn (.execute c)) s

namespace Service

theorem executeAll_cons (spawn : Spawner σ) (s : Service σ) (c : Command) (cs : List Command) :
    s.executeAll spawn (c :: cs) = (s.next spawn (.execute c)).executeAll spawn cs := rfl

/-- What is stored stays. -/
theorem get?_executeAll {s : Service σ} {x : Execution} (h : s.cache.get? f = some x)
    (cs : List Command) : (s.executeAll spawn cs).cache.get? f = some x := by
  induction cs generalizing s with
  | nil => exact h
  | cons c cs ih =>
    have hnext : (s.next spawn (.execute c)).cache.get? f = some x := by
      simp only [next, get?_execute]
      split
      · rename_i hc
        rw [execute_of_hit (hc ▸ h)]
      · exact h
    exact ih hnext

theorem mem_keys_executeAll {s : Service σ} {cs : List Command} :
    f ∈ (s.executeAll spawn cs).cache.keys ↔
      f ∈ s.cache.keys ∨ f ∈ cs.map (·.fingerprint) := by
  induction cs generalizing s with
  | nil => simp [executeAll]
  | cons c cs ih =>
    rw [executeAll_cons, ih, List.map_cons, List.mem_cons, ← or_assoc]
    simp only [next, mem_keys_execute]

/-- Commands whose results are stored change nothing. -/
theorem executeAll_eq_self {s : Service σ} : ∀ {cs : List Command},
    (∀ c ∈ cs, c.fingerprint ∈ s.cache.keys) → s.executeAll spawn cs = s
  | [], _ => rfl
  | c :: cs, h => by
    have hstored : s.cache.get? c.fingerprint ≠ none :=
      mt get?_eq_none_iff.1 (not_not.2 (h c List.mem_cons_self))
    obtain ⟨x, hx⟩ := Option.ne_none_iff_exists'.1 hstored
    have hnext : s.next spawn (.execute c) = s := by
      simp only [next, execute_of_hit hx]
    rw [executeAll_cons, hnext]
    exact executeAll_eq_self fun d hd => h d (List.mem_cons_of_mem c hd)

/-- The new entries are those of the spawned commands, one for each fingerprint that was not
stored. -/
theorem executeAll_recording (spawn : Spawner σ) (cs : List Command)
    (s : Service (σ × List Command)) :
    ∃ new, (s.executeAll spawn.recording cs).spawner.2 = s.spawner.2 ++ new ∧
      (s.executeAll spawn.recording cs).cache.keys = s.cache.keys ++ new.map (·.fingerprint) ∧
      (new.map (·.fingerprint)).Nodup ∧
      ∀ f ∈ new.map (·.fingerprint), f ∉ s.cache.keys := by
  induction cs generalizing s with
  | nil => exact ⟨[], by simp [executeAll], by simp [executeAll], List.nodup_nil, by simp⟩
  | cons c cs ih =>
    obtain ⟨new, hspawned, hkeys, hnodup, hfresh⟩ := ih (s.next spawn.recording (.execute c))
    rw [executeAll_cons, hspawned, hkeys]
    simp only [next, spawned_execute, keys_execute]
    simp only [next, mem_keys_execute, not_or] at hfresh
    by_cases hc : c.fingerprint ∈ s.cache.keys
    · refine ⟨new, ?_, ?_, hnodup, fun f hf => (hfresh f hf).1⟩
      · rw [if_pos hc, List.append_nil]
      · rw [if_pos hc, List.append_nil]
    · refine ⟨c :: new, ?_, ?_, ?_, ?_⟩
      · rw [if_neg hc, List.append_assoc, List.singleton_append]
      · rw [if_neg hc, List.append_assoc, List.singleton_append, List.map_cons]
      · exact List.nodup_cons.2 ⟨fun hm => (hfresh _ hm).2 rfl, hnodup⟩
      · intro f hf
        rcases List.mem_cons.1 hf with rfl | hf
        · exact hc
        · exact (hfresh f hf).1

/-- **One command is spawned for each fingerprint that was not stored,** and the cache grows by as
many entries. -/
theorem spawned_executeAll (spawn : Spawner σ) (cache : Cache) (st : σ) (cs : List Command) :
    let s := (⟨cache, (st, [])⟩ : Service (σ × List Command)).executeAll spawn.recording cs
    s.cache.size = cache.size + s.spawner.2.length ∧
      s.spawner.2.length =
        ((cs.map (·.fingerprint)).toFinset.filter fun f => cache.get? f = none).card := by
  intro s
  obtain ⟨new, hspawned, hkeys, hnodup, hfresh⟩ :=
    executeAll_recording spawn cs ⟨cache, (st, [])⟩
  have hrecord : s.spawner.2 = new := hspawned
  have hgrown : s.cache.keys = cache.keys ++ new.map (·.fingerprint) := hkeys
  rw [hrecord]
  constructor
  · rw [← length_keys, hgrown, List.length_append, List.length_map, length_keys]
  · have hset : (new.map (·.fingerprint)).toFinset =
        (cs.map (·.fingerprint)).toFinset.filter fun f => cache.get? f = none := by
      ext f
      have hmem : f ∈ s.cache.keys ↔ f ∈ cache.keys ∨ f ∈ cs.map (·.fingerprint) :=
        mem_keys_executeAll
      rw [hgrown, List.mem_append] at hmem
      have hnew : f ∈ new.map (·.fingerprint) → f ∉ cache.keys := hfresh f
      rw [List.mem_toFinset, Finset.mem_filter, List.mem_toFinset, get?_eq_none_iff]
      tauto
    rw [← hset, List.toFinset_card_of_nodup hnodup, List.length_map]

end Service

end Cache

end DocAudit
