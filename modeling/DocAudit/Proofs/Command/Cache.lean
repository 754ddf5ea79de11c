import DocAudit.Command.Cache

/-!
# What the command cache answers

`get?_execute` says all that a later request can see of an execution: the result is stored under
the command's fingerprint, and nothing else has changed.  From it follows that a cache may be
shared: `Cache.Agrees` holds of a cache whose stored results are those that a function gives, and
executing a command keeps it as long as fingerprints tell commands apart.
-/

namespace DocAudit.Cache

theorem get?_empty (f : Fingerprint) : ({} : Cache).get? f = none := rfl

theorem get?_append_singleton (entries : List (Fingerprint × Execution)) (f g : Fingerprint)
    (x : Execution) :
    (Cache.mk (entries ++ [(g, x)])).get? f =
      ((Cache.mk entries).get? f).or (if g = f then some x else none) := by
  unfold get?
  rw [List.find?_append]
  cases entries.find? (·.1 = f) with
  | some e => rfl
  | none =>
    by_cases h : g = f
    · simp [h]
    · simp [h]

variable {σ : Type}

theorem execute_of_hit {cache : Cache} {c : Command} {x : Execution}
    (h : cache.get? c.fingerprint = some x) (spawn : Spawner σ) (st : σ) :
    cache.execute spawn c st = ⟨x, cache, st, [hitEntry c]⟩ := by
  unfold execute
  rw [h]

theorem execute_of_miss {cache : Cache} {c : Command}
    (h : cache.get? c.fingerprint = none) (spawn : Spawner σ) (st : σ) :
    cache.execute spawn c st =
      ⟨(spawn c st).execution, ⟨cache.entries ++ [(c.fingerprint, (spawn c st).execution)]⟩,
        (spawn c st).state, (spawn c st).log⟩ := by
  unfold execute
  rw [h]

/-- **An execution is visible under the command's fingerprint only.** -/
theorem get?_execute (spawn : Spawner σ) (cache : Cache) (c : Command) (st : σ)
    (f : Fingerprint) :
    (cache.execute spawn c st).cache.get? f =
      if c.fingerprint = f then some (cache.execute spawn c st).execution else cache.get? f := by
  cases h : cache.get? c.fingerprint with
  | some x =>
    rw [execute_of_hit h]
    split
    · rename_i hf
      rw [← hf, h]
    · rfl
  | none =>
    rw [execute_of_miss h]
    simp only
    rw [get?_append_singleton]
    split
    · rename_i hf
      rw [← hf, h, Option.none_or]
    · rw [Option.or_none]

/-- The stored results for the commands `cs` are those that `result` gives. -/
def Agrees (result : Command → Execution) (cs : List Command) (cache : Cache) : Prop :=
  ∀ c ∈ cs, ∀ x, cache.get? c.fingerprint = some x → x = result c

/-- Different commands of the list have different fingerprints. -/
def FingerprintsSeparate (cs : List Command) : Prop :=
  ∀ c ∈ cs, ∀ d ∈ cs, c.fingerprint = d.fingerprint → c = d

theorem Agrees.empty (result : Command → Execution) (cs : List Command) :
    Agrees result cs {} := by
  intro c _ x h
  rw [get?_empty] at h
  cases h

theorem Agrees.mono {result : Command → Execution} {cs ds : List Command} {cache : Cache}
    (h : Agrees result cs cache) (hsub : ∀ c ∈ ds, c ∈ cs) : Agrees result ds cache :=
  fun c hc => h c (hsub c hc)

/-- A spawner that answers by the command alone is not told apart from the cache. -/
theorem Agrees.execution_eq {result : Command → Execution} {cs : List Command} {cache : Cache}
    (h : Agrees result cs cache) {spawn : Spawner σ}
    (hspawn : ∀ c st, (spawn c st).execution = result c) {c : Command} (hc : c ∈ cs) (st : σ) :
    (cache.execute spawn c st).execution = result c := by
  cases hg : cache.get? c.fingerprint with
  | some x =>
    rw [execute_of_hit hg]
    exact h c hc x hg
  | none =>
    rw [execute_of_miss hg]
    exact hspawn c st

theorem Agrees.execute {result : Command → Execution} {cs : List Command} {cache : Cache}
    (h : Agrees result cs cache) {spawn : Spawner σ}
    (hspawn : ∀ c st, (spawn c st).execution = result c) (hsep : FingerprintsSeparate cs)
    {c : Command} (hc : c ∈ cs) (st : σ) :
    Agrees result cs (cache.execute spawn c st).cache := by
  intro d hd x hx
  rw [get?_execute] at hx
  split at hx
  · rename_i hf
    rw [h.execution_eq hspawn hc st] at hx
    rw [← hsep c hc d hd hf]
    exact (Option.some.inj hx).symm
  · exact h d hd x hx

end DocAudit.Cache
