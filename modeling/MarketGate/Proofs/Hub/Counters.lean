import MarketGate.Proofs.Hub.Event

/-!
# The counters of a hub

What the metrics say about a hub and what is in it.  The gauge of connections is set whenever an
entry comes or goes, so it never differs from the size of the registry; the counter of broadcasts
counts the commands of that kind; the counters of the feed belong to the bridge, and commands leave
them alone.

* **`Counted.apply`**: the gauge is the size of the registry.
* `broadcasts_apply`, `fragments_apply`: the counters after a command.
-/

namespace MarketGate

namespace Hub

/-- The gauge of connections shows how many there are. -/
def Counted (h : Hub) : Prop := h.metrics.activeConnections = h.registry.length

section Counters

variable {h : Hub}

lemma Counted.register (hc : h.Counted) (r : Registration) : (h.register r).Counted := by
  unfold Hub.register
  split
  · exact hc
  · split_ifs
    · exact hc
    · rfl

lemma Counted.unregister (hc : h.Counted) (id : Nat) : (h.unregister id).Counted := by
  unfold Hub.unregister
  split
  · exact hc
  · rfl

lemma counted_stop (h : Hub) : h.stop.Counted := rfl

/-- What a list of removals leaves of something that one removal leaves alone. -/
lemma foldl_unregister {P : Hub → Prop} (hP : ∀ h id, P h → P (h.unregister id))
    (refused : List (Nat × Queue.Refusal)) {h : Hub} (hh : P h) :
    P (refused.foldl (fun h r => h.unregister r.1) h) := by
  induction refused generalizing h with
  | nil => exact hh
  | cons r rest ih => exact ih (hP h r.1 hh)

lemma Counted.broadcast (hc : h.Counted) (payload : Bytes) : (h.broadcast payload).Counted :=
  foldl_unregister (P := Counted) (fun _ id hk => hk.unregister id) (h.fanOut payload).refused hc

/-- **The gauge shows how many connections are registered.** -/
theorem Counted.apply (hc : h.Counted) (command : Command) : (h.apply command).Counted := by
  cases command with
  | register r => exact hc.register r
  | unregister id => exact hc.unregister id
  | broadcast payload => exact hc.broadcast payload
  | count ticket => exact hc

/-- A fold of changes that leave the metrics alone leaves them alone. -/
lemma metrics_foldl (h : Hub) {α : Type} (f : Hub → α → Hub)
    (hf : ∀ h a, (f h a).metrics = h.metrics) (l : List α) :
    (l.foldl f h).metrics = h.metrics := by
  induction l generalizing h with
  | nil => rfl
  | cons a rest ih => exact (ih (f h a)).trans (hf h a)

/-- The end of the hub touches the gauge alone. -/
lemma metrics_stop (h : Hub) : h.stop.metrics = { h.metrics with activeConnections := 0 } := by
  have hfold := metrics_foldl h (fun h (e : Nat × Registration) => h.release e.2) (fun _ _ => rfl)
    h.registry
  exact (congrArg (fun m : Metrics => { m with activeConnections := 0 }) hfold :)

/-- A removal touches the gauge alone. -/
lemma metrics_unregister_eq (h : Hub) (id : Nat) :
    (h.unregister id).metrics = { h.metrics with
      activeConnections := (h.unregister id).metrics.activeConnections } := by
  unfold unregister
  split <;> rfl

/-- A broadcast touches the gauge and two counters. -/
theorem metrics_broadcast_of_gauge (h : Hub) (payload : Bytes) :
    (h.broadcast payload).metrics = { h.metrics with
      activeConnections := (h.broadcast payload).metrics.activeConnections
      backpressureDisconnects :=
        h.metrics.backpressureDisconnects + (h.fanOut payload).full.length
      broadcasts := h.metrics.broadcasts + 1 } := by
  have hfold := foldl_unregister
    (P := fun k => k.metrics = { h.metrics with
      activeConnections := k.metrics.activeConnections
      backpressureDisconnects :=
        h.metrics.backpressureDisconnects + (h.fanOut payload).full.length })
    (fun k id hk => by
      rw [metrics_unregister_eq k id, hk])
    (h.fanOut payload).refused (h := { h with
      queues := (h.fanOut payload).queues
      metrics := { h.metrics with
        backpressureDisconnects :=
          h.metrics.backpressureDisconnects + (h.fanOut payload).full.length } }) rfl
  exact congrArg (fun m : Metrics => { m with broadcasts := m.broadcasts + 1 }) hfold

/-- **What a broadcast counts**: itself, and those whose queue was full. -/
theorem metrics_broadcast_eq (hc : h.Counted) (payload : Bytes) :
    (h.broadcast payload).metrics = { h.metrics with
      activeConnections := (h.broadcast payload).registry.length
      backpressureDisconnects :=
        h.metrics.backpressureDisconnects + (h.fanOut payload).full.length
      broadcasts := h.metrics.broadcasts + 1 } := by
  have hgauge : (h.broadcast payload).metrics.activeConnections
      = (h.broadcast payload).registry.length := hc.broadcast payload
  rw [← hgauge]
  exact metrics_broadcast_of_gauge h payload

/-- The gauge moves with the registry: a removal that removes nobody leaves it where it is. -/
def Gauged (h h' : Hub) : Prop :=
  h'.registry.length ≤ h.registry.length
    ∧ h'.metrics.activeConnections
      = if h'.registry.length = h.registry.length then h.metrics.activeConnections
        else h'.registry.length

lemma Gauged.unregister {h' : Hub} (hg : h.Gauged h') (id : Nat) :
    h.Gauged (h'.unregister id) := by
  obtain ⟨hle, hgauge⟩ := hg
  cases he : h'.registry.lookup id with
  | none =>
      have hsame : h'.unregister id = h' := by rw [Hub.unregister, he]
      rw [hsame]
      exact ⟨hle, hgauge⟩
  | some r =>
      have hlt : (h'.unregister id).registry.length < h'.registry.length := by
        rw [registry_unregister, List.length_filter_lt_length_iff_exists]
        exact ⟨(id, r), mem_of_entryAt? he, by simp⟩
      have hset : (h'.unregister id).metrics.activeConnections
          = (h'.unregister id).registry.length := by
        simp only [Hub.unregister, he]
        rfl
      have hless := Nat.lt_of_lt_of_le hlt hle
      exact ⟨Nat.le_of_lt hless, by rw [hset, if_neg (Nat.ne_of_lt hless)]⟩

/-- **The gauge after a broadcast**: it is only set when somebody is removed. -/
theorem gauged_broadcast (h : Hub) (payload : Bytes) : h.Gauged (h.broadcast payload) := by
  have hfold := foldl_unregister (P := fun k => h.Gauged k) (fun _ id hk => hk.unregister id)
    (h.fanOut payload).refused (h := { h with
      queues := (h.fanOut payload).queues
      metrics := { h.metrics with
        backpressureDisconnects :=
          h.metrics.backpressureDisconnects + (h.fanOut payload).full.length } })
    ⟨Nat.le_refl _, by rw [if_pos rfl]⟩
  exact hfold

/-- A removal does not count as anything. -/
lemma metrics_unregister (h : Hub) (id : Nat) :
    (h.unregister id).metrics.broadcasts = h.metrics.broadcasts
      ∧ (h.unregister id).metrics.fragments = h.metrics.fragments := by
  unfold unregister
  split <;> exact ⟨rfl, rfl⟩

lemma metrics_register (h : Hub) (r : Registration) :
    (h.register r).metrics.broadcasts = h.metrics.broadcasts
      ∧ (h.register r).metrics.fragments = h.metrics.fragments := by
  unfold register
  split
  · exact ⟨rfl, rfl⟩
  · split_ifs <;> exact ⟨rfl, rfl⟩

lemma metrics_broadcast (h : Hub) (payload : Bytes) :
    (h.broadcast payload).metrics.broadcasts = h.metrics.broadcasts + 1
      ∧ (h.broadcast payload).metrics.fragments = h.metrics.fragments := by
  have hfold := foldl_unregister
    (P := fun k => k.metrics.broadcasts = h.metrics.broadcasts
      ∧ k.metrics.fragments = h.metrics.fragments)
    (fun k id hk => by
      obtain ⟨hbroadcasts, hfragments⟩ := metrics_unregister k id
      exact ⟨hbroadcasts.trans hk.1, hfragments.trans hk.2⟩)
    (h.fanOut payload).refused (h := { h with
      queues := (h.fanOut payload).queues
      metrics := { h.metrics with
        backpressureDisconnects :=
          h.metrics.backpressureDisconnects + (h.fanOut payload).full.length } }) ⟨rfl, rfl⟩
  exact ⟨congrArg (fun n => n + 1) hfold.1, hfold.2⟩

/-- A command that is no broadcast finds no queue full. -/
lemma backpressureDisconnects_apply (h : Hub) {command : Command}
    (hquiet : ∀ payload, command ≠ .broadcast payload) :
    (h.apply command).metrics.backpressureDisconnects = h.metrics.backpressureDisconnects := by
  cases command with
  | register r =>
      rw [apply, register]
      split
      · rfl
      · split_ifs <;> rfl
  | unregister id => rw [apply, metrics_unregister_eq]
  | broadcast payload => exact absurd rfl (hquiet payload)
  | count ticket => rfl

/-- **The counter of broadcasts counts broadcasts.** -/
theorem broadcasts_apply (h : Hub) (command : Command) :
    (h.apply command).metrics.broadcasts
      = h.metrics.broadcasts + command.payload?.toList.length := by
  cases command with
  | register r => exact (metrics_register h r).1
  | unregister id => exact (metrics_unregister h id).1
  | broadcast payload => exact (metrics_broadcast h payload).1
  | count ticket => rfl

/-- Commands leave the counters of the feed alone. -/
theorem fragments_apply (h : Hub) (command : Command) :
    (h.apply command).metrics.fragments = h.metrics.fragments := by
  cases command with
  | register r => exact (metrics_register h r).2
  | unregister id => exact (metrics_unregister h id).2
  | broadcast payload => exact (metrics_broadcast h payload).2
  | count ticket => rfl

end Counters

end Hub

end MarketGate
