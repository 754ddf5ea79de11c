import DocAudit.Proofs.Command.History
import DocAudit.Proofs.Runner.Independence

/-!
# Repeated runs

A run leaves the results of its commands in the cache.  When it is repeated on this cache, each
validator gets the very result that it got the first time, even from a tool that would answer
differently by now, and even if the first run ended early: `rerun_spawns_nothing`.

Two runs that answer alike go alike (`results_congr`).  What a run does to cache and spawner is to
execute the commands of the validators that it gets to (`service_after`), so that the rest follows
from what is known of caches.
-/

namespace DocAudit.Runner

variable {σ τ : Type} {r : Runner} {spawn : Spawner σ} {spawn' : Spawner τ}

/-! ## Cache and spawner in a run -/

/-- The part of a session that commands are executed with. -/
def Session.service (s : Session σ) : Cache.Service σ := ⟨s.cache, s.spawner⟩

theorem service_executeValidator (r : Runner) (spawn : Spawner σ) (v : Validator)
    (s : Session σ) :
    (r.executeValidator spawn v s).session.service =
      s.service.executeAll spawn (r.command? v).toList := by
  unfold Session.service
  cases hc : r.command? v with
  | none =>
    obtain ⟨hcache, hspawner⟩ := executeValidator_of_command?_none hc spawn s
    rw [hcache, hspawner]
    rfl
  | some c =>
    obtain ⟨hcache, hspawner⟩ := executeValidator_of_command?_some hc spawn s
    rw [hcache, hspawner]
    rfl

/-- **Validators change cache and spawner by their commands only.** -/
theorem service_after (r : Runner) (spawn : Spawner σ) : ∀ (vs : List Validator) (s : Session σ),
    (r.after spawn s vs).service = s.service.executeAll spawn (r.commands vs)
  | [], _ => rfl
  | v :: vs, s => by
    have hrest := service_after r spawn vs (r.executeValidator spawn v s).session
    rw [service_executeValidator] at hrest
    rw [commands_cons]
    unfold Cache.Service.executeAll at *
    rw [List.foldl_append]
    exact hrest

/-! ## Runs that go alike -/

/-- **Validators that get the same answers have the same results.**  The relation `R` is between
two sessions when `vs` are the validators that are still to be run. -/
theorem results_congr (r : Runner) (spawn : Spawner σ) (spawn' : Spawner τ)
    {R : List Validator → Session σ → Session τ → Prop}
    (hanswer : ∀ v vs s t, R (v :: vs) s t → ∀ c, r.command? v = some c →
      t.answer spawn' c = s.answer spawn c)
    (hstep : ∀ v vs s t result, R (v :: vs) s t → r.verdict (s.answer spawn) v = .ok result →
      R vs (r.executeValidator spawn v s).session (r.executeValidator spawn' v t).session) :
    ∀ (vs : List Validator) (s : Session σ) (t : Session τ), R vs s t →
      r.results spawn' t vs = r.results spawn s vs ∧ r.reached spawn' t vs = r.reached spawn s vs
  | [], _, _, _ => ⟨rfl, rfl⟩
  | v :: vs, s, t, h => by
    have hv : r.verdict (t.answer spawn') v = r.verdict (s.answer spawn) v :=
      r.verdict_congr (hanswer v vs s t h)
    unfold results reached
    rw [runValidator_outcome, runValidator_outcome, hv]
    cases hok : r.verdict (s.answer spawn) v with
    | error e => exact ⟨rfl, rfl⟩
    | ok result =>
      have hnext := hstep v vs s t result h hok
      obtain ⟨hresults, hreached⟩ := results_congr r spawn spawn' hanswer hstep vs _ _ hnext
      simp only [Except.bind]
      rw [hresults, hreached]
      exact ⟨rfl, rfl⟩

/-! ### A run on the cache that it has left -/

/-- The session after the validators that are reached. -/
def final (r : Runner) (spawn : Spawner σ) (s : Session σ) (vs : List Validator) : Session σ :=
  r.after spawn s (r.reached spawn s vs)

theorem final_cons_of_ok {s : Session σ} {v : Validator} {vs : List Validator}
    {result : ValidatorResult} (h : r.verdict (s.answer spawn) v = .ok result) :
    r.final spawn s (v :: vs) = r.final spawn (r.executeValidator spawn v s).session vs := by
  rw [final, reached, runValidator_outcome, h]
  rfl

/-- The result that a validator has got stays in the cache. -/
theorem get?_final (spawn : Spawner σ) (s : Session σ) {v : Validator} (vs : List Validator)
    {c : Command} (hc : r.command? v = some c) :
    (r.final spawn s (v :: vs)).cache.get? c.fingerprint = some (s.answer spawn c) := by
  obtain ⟨rest, hrest⟩ : ∃ rest, r.reached spawn s (v :: vs) = v :: rest := by
    unfold reached
    split
    · exact ⟨[], rfl⟩
    · exact ⟨_, rfl⟩
  have hnext : (s.service.next spawn (.execute c)).cache.get? c.fingerprint =
      some (s.answer spawn c) := by
    have := Cache.get?_execute spawn s.cache c s.spawner c.fingerprint
    rwa [if_pos rfl] at this
  have hservice : (r.final spawn s (v :: vs)).service =
      (s.service.next spawn (.execute c)).executeAll spawn (r.commands rest) := by
    unfold final
    rw [service_after, hrest, commands_cons, hc]
    rfl
  have hcache : (r.final spawn s (v :: vs)).cache = (r.final spawn s (v :: vs)).service.cache := rfl
  rw [hcache, hservice]
  exact Cache.Service.get?_executeAll hnext (r.commands rest)

/-- The session `t` has stored what a run of `vs` from `s` leaves in the cache. -/
def Knows (r : Runner) (spawn : Spawner σ) (vs : List Validator) (s : Session σ)
    (t : Session τ) : Prop :=
  ∀ f x, (r.final spawn s vs).cache.get? f = some x → t.cache.get? f = some x

theorem Knows.answer_eq {s : Session σ} {t : Session τ} {v : Validator} {vs : List Validator}
    (h : r.Knows spawn (v :: vs) s t) {c : Command} (hc : r.command? v = some c) :
    t.answer spawn' c = s.answer spawn c := by
  have hstored := h _ _ (get?_final spawn s vs hc)
  have hhit := Cache.execute_of_hit hstored spawn' t.spawner
  unfold Session.answer at *
  rw [hhit]

theorem Knows.executeValidator_cache {s : Session σ} {t : Session τ} {v : Validator}
    {vs : List Validator} (h : r.Knows spawn (v :: vs) s t) :
    (r.executeValidator spawn' v t).session.cache = t.cache := by
  cases hc : r.command? v with
  | none => exact (executeValidator_of_command?_none hc spawn' t).1
  | some c =>
    have hstored := h _ _ (get?_final spawn s vs hc)
    rw [(executeValidator_of_command?_some hc spawn' t).1, Cache.execute_of_hit hstored]

theorem Knows.step {s : Session σ} {t : Session τ} {v : Validator} {vs : List Validator}
    {result : ValidatorResult} (h : r.Knows spawn (v :: vs) s t)
    (hok : r.verdict (s.answer spawn) v = .ok result) :
    r.Knows spawn vs (r.executeValidator spawn v s).session
      (r.executeValidator spawn' v t).session := by
  intro f x hx
  rw [← final_cons_of_ok hok] at hx
  rw [h.executeValidator_cache]
  exact h f x hx

/-! ### A run with a record of its spawns -/

/-- The sessions have the same cache and spawners in the same state. -/
def Records (s : Session σ) (t : Session (σ × List Command)) : Prop :=
  t.cache = s.cache ∧ t.spawner.1 = s.spawner

theorem Records.execute {s : Session σ} {t : Session (σ × List Command)} (h : Records s t)
    (c : Command) :
    t.answer spawn.recording c = s.answer spawn c ∧
      (t.cache.execute spawn.recording c t.spawner).cache =
        (s.cache.execute spawn c s.spawner).cache ∧
      (t.cache.execute spawn.recording c t.spawner).state.1 =
        (s.cache.execute spawn c s.spawner).state := by
  obtain ⟨hcache, hspawner⟩ := h
  unfold Session.answer
  rw [hcache, ← hspawner]
  cases hget : s.cache.get? c.fingerprint with
  | some x => simp only [Cache.execute_of_hit hget, and_self]
  | none => simp only [Cache.execute_of_miss hget, Spawner.recording, and_self]

theorem Records.executeValidator {s : Session σ} {t : Session (σ × List Command)}
    (h : Records s t) (v : Validator) :
    Records (r.executeValidator spawn v s).session
      (r.executeValidator spawn.recording v t).session := by
  unfold Records
  cases hc : r.command? v with
  | none =>
    obtain ⟨hs, hs'⟩ := executeValidator_of_command?_none hc spawn s
    obtain ⟨ht, ht'⟩ := executeValidator_of_command?_none hc spawn.recording t
    rw [hs, hs', ht, ht']
    exact h
  | some c =>
    obtain ⟨hs, hs'⟩ := executeValidator_of_command?_some hc spawn s
    obtain ⟨ht, ht'⟩ := executeValidator_of_command?_some hc spawn.recording t
    rw [hs, hs', ht, ht']
    exact (h.execute c).2

theorem Records.after : ∀ (vs : List Validator) {s : Session σ} {t : Session (σ × List Command)},
    Records s t → Records (r.after spawn s vs) (r.after spawn.recording t vs)
  | [], _, _, h => h
  | v :: vs, _, _, h => Records.after vs (h.executeValidator v)

/-! ## Whole runs -/

/-- What a run does to cache and spawner is to execute its commands. -/
theorem service_run (r : Runner) (spawn : Spawner σ) (cache : Cache) (st : σ) :
    (r.run spawn cache st).session.service =
      (⟨cache, st⟩ : Cache.Service σ).executeAll spawn (r.builtCommands spawn cache st) := by
  rw [run_session, service_after]
  rfl

/-- The commands of a run are stored when it has ended. -/
theorem mem_keys_run {cache : Cache} {st : σ} {c : Command}
    (hc : c ∈ r.builtCommands spawn cache st) :
    c.fingerprint ∈ (r.run spawn cache st).session.cache.keys := by
  change c.fingerprint ∈ (r.run spawn cache st).session.service.cache.keys
  rw [service_run, Cache.Service.mem_keys_executeAll]
  exact .inr (List.mem_map_of_mem hc)

/-- A run on the cache that it has left goes as it went before. -/
theorem rerun_eq (r : Runner) (spawn : Spawner σ) (cache : Cache) (st : σ)
    (spawn' : Spawner τ) (st' : τ) :
    (r.run spawn' (r.run spawn cache st).session.cache st').outcome =
        (r.run spawn cache st).outcome ∧
      r.builtCommands spawn' (r.run spawn cache st).session.cache st' =
        r.builtCommands spawn cache st := by
  have hknows : r.Knows spawn r.activeValidators ⟨cache, st, {}⟩
      (⟨(r.run spawn cache st).session.cache, st', {}⟩ : Session τ) := by
    intro f x hx
    rw [run_session]
    exact hx
  obtain ⟨hresults, hreached⟩ := r.results_congr spawn spawn' (R := r.Knows spawn)
    (fun v vs s t h c hc => Knows.answer_eq h hc)
    (fun v vs s t result h hok => Knows.step h hok) _ _ _ hknows
  rw [run_outcome, run_outcome, hresults]
  exact ⟨rfl, congrArg r.commands hreached⟩

/-- A record of the spawned commands does not change a run. -/
theorem run_recording (r : Runner) (spawn : Spawner σ) (cache : Cache) (st : σ) :
    (r.run spawn.recording cache (st, [])).outcome = (r.run spawn cache st).outcome ∧
      r.builtCommands spawn.recording cache (st, []) = r.builtCommands spawn cache st ∧
      Records (r.run spawn cache st).session (r.run spawn.recording cache (st, [])).session := by
  have hstart : Records (⟨cache, st, {}⟩ : Session σ) ⟨cache, (st, []), {}⟩ := ⟨rfl, rfl⟩
  obtain ⟨hresults, hreached⟩ := r.results_congr spawn spawn.recording (R := fun _ => Records)
    (fun v vs s t h c _ => (h.execute c).1)
    (fun v vs s t result h _ => h.executeValidator v) r.activeValidators _ _ hstart
  rw [run_outcome, run_outcome, hresults, run_session, run_session, hreached]
  exact ⟨rfl, congrArg r.commands hreached, hstart.after _⟩

/-- **A run can be repeated for nothing.**  On the cache that a run has left, a further run with
    whatever spawner leaves spawner and cache as they are and has the same outcome, report or
    error.  A spawner that keeps a record of its commands does not change a run, and its record
    shows that the first run spawned as many commands as the cache has grown by: one for each
    fingerprint that it executed and that was not stored before. -/
theorem rerun_spawns_nothing (r : Runner) (spawn : Spawner σ) (cache : Cache) (st : σ) :
    let first := r.run spawn cache st
    let recorded := r.run spawn.recording cache (st, [])
    (∀ (τ : Type) (spawn' : Spawner τ) (st' : τ),
      (r.run spawn' first.session.cache st').outcome = first.outcome ∧
      (r.run spawn' first.session.cache st').session.cache = first.session.cache ∧
      (r.run spawn' first.session.cache st').session.spawner = st') ∧
    (recorded.outcome = first.outcome ∧ recorded.session.cache = first.session.cache ∧
      recorded.session.spawner.1 = first.session.spawner) ∧
    first.session.cache.size = cache.size + recorded.session.spawner.2.length ∧
    recorded.session.spawner.2.length =
      (((r.builtCommands spawn cache st).map (·.fingerprint)).toFinset.filter
        fun f => cache.get? f = none).card := by
  intro first recorded
  obtain ⟨houtcome, hcommands, hrecords⟩ := r.run_recording spawn cache st
  refine ⟨fun τ spawn' st' => ?_, ⟨houtcome, hrecords⟩, ?_⟩
  · obtain ⟨hagain, hbuilt⟩ := r.rerun_eq spawn cache st spawn' st'
    have hservice : (r.run spawn' first.session.cache st').session.service =
        ⟨first.session.cache, st'⟩ := by
      rw [service_run, hbuilt]
      exact Cache.Service.executeAll_eq_self fun c hc => mem_keys_run hc
    exact ⟨hagain, congrArg (·.cache) hservice, congrArg (·.spawner) hservice⟩
  · have hservice : recorded.session.service = _ := r.service_run spawn.recording cache (st, [])
    have hspawned :=
      Cache.Service.spawned_executeAll spawn cache st (r.builtCommands spawn cache st)
    rw [hcommands] at hservice
    rw [← hservice] at hspawned
    rw [← hrecords.1]
    exact hspawned

end DocAudit.Runner
