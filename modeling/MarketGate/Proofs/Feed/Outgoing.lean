import MarketGate.Feed.Socket
import Mathlib.Data.List.Basic

/-!
# Bytes into the socket for orders

The feed writer takes one buffer after another out of the queue and writes each to its last byte,
unless the socket fails or the writer is stopped.  So what the socket took is what was taken out of
the queue, up to one write: the one that is in progress, or the one that was cut off.

* `FeedWriter.unwritten` is the write in progress, and `SocketFeed.cutAt` the one that an action
  cuts off, each by what is left of it.
* `SocketFeed.Delivers` says where the bytes are that were taken out of the queue.
  **`SocketFeed.Delivers.step`**: every step but an offer keeps it, and leaves what was accepted.
  **`SocketFeed.Delivers.extend`**: more buffers in the queue make no difference.
-/

namespace MarketGate

namespace FeedWriter

/-- The buffer that is being written, by what is left of it. -/
def unwritten : FeedWriter → List Bytes
  | writing rest => [rest]
  | waiting | done => []

lemma flatten_unwritten_withRest (rest : Bytes) : (withRest rest).unwritten.flatten = rest := by
  cases rest <;> simp [withRest, unwritten]

end FeedWriter

namespace SocketFeed

/-- The write that an action cuts off, by what was left of it. -/
def cutAt (action : Action) (f : SocketFeed) : List Bytes :=
  match action with
  | .write (.fail _) | .disconnect => f.writer.unwritten
  | _ => []

/-- What the socket for orders took behind the hello is what was taken out of the queue, up to the
write that is in progress or was cut off. -/
structure Delivers (hello : Bytes) (cut : List Bytes) (f : SocketFeed) : Prop where
  taken : f.publication.queue.taken ≤ f.publication.queue.log.length
  bytes : ∃ bytes, f.sent = hello ++ bytes
    ∧ bytes ++ (f.writer.unwritten ++ cut).flatten = f.publication.queue.received.flatten
  stopped : cut ≠ [] → f.writer = .done

section Delivers

variable {hello : Bytes} {cut : List Bytes} {f g : SocketFeed}

/-- More buffers may be accepted meanwhile. -/
lemma Delivers.extend (h : f.Delivers hello cut) (hwriter : g.writer = f.writer)
    (hsent : g.sent = f.sent) {more : List Bytes}
    (hlog : g.publication.queue.log = f.publication.queue.log ++ more)
    (htaken : g.publication.queue.taken = f.publication.queue.taken) : g.Delivers hello cut where
  taken := by
    rw [htaken, hlog, List.length_append]
    exact Nat.le_trans h.taken (Nat.le_add_right _ _)
  bytes := by
    rw [hsent, hwriter, Queue.received, htaken, hlog, List.take_append_of_le_length h.taken]
    exact h.bytes
  stopped := by
    rw [hwriter]
    exact h.stopped

lemma Delivers.congr (h : f.Delivers hello cut) (hpublication : g.publication = f.publication)
    (hwriter : g.writer = f.writer) (hsent : g.sent = f.sent) : g.Delivers hello cut :=
  h.extend hwriter hsent (by rw [hpublication, List.append_nil]) (by rw [hpublication])

/-- A writer that ends cuts off what it writes. -/
lemma Delivers.endWriter (h : f.Delivers hello cut) :
    f.endWriter.Delivers hello (cut ++ f.writer.unwritten) where
  taken := h.taken
  bytes := by
    obtain ⟨bytes, hsent, hbytes⟩ := h.bytes
    refine ⟨bytes, hsent, ?_⟩
    have hboth : (cut ++ f.writer.unwritten).flatten = (f.writer.unwritten ++ cut).flatten := by
      cases cut with
      | nil => rw [List.nil_append, List.append_nil]
      | cons rest more =>
          rw [h.stopped (List.cons_ne_nil _ _)]
          exact congrArg List.flatten (List.append_nil _)
    exact (congrArg (bytes ++ ·) hboth).trans hbytes
  stopped _ := rfl

/-- A writer that is not done has not cut anything off. -/
lemma Delivers.cut_eq_nil (h : f.Delivers hello cut) (hwriter : f.writer ≠ .done) : cut = [] := by
  by_contra hcut
  exact hwriter (h.stopped hcut)

/-- The writer takes up the next buffer. -/
lemma Delivers.dequeue (h : f.Delivers hello cut) (hwriter : f.writer = .waiting) {buffer : Bytes}
    {queue : Queue} (htake : f.publication.queue.take? = some (buffer, queue)) :
    (({ f with writer := .withRest buffer } : SocketFeed).onQueue fun _ => queue).Delivers hello
      cut := by
  obtain rfl := h.cut_eq_nil (by rw [hwriter]; exact FeedWriter.noConfusion)
  obtain ⟨bytes, hsent, hbytes⟩ := h.bytes
  rw [Queue.take?, Option.map_eq_some_iff] at htake
  obtain ⟨first, hfirst, heq⟩ := htake
  cases heq
  obtain ⟨hlt, hbuffer⟩ := List.getElem?_eq_some_iff.1 hfirst
  refine ⟨hlt, ⟨bytes, hsent, ?_⟩, fun hcut => absurd rfl hcut⟩
  simp only [hwriter, FeedWriter.unwritten, List.append_nil, List.flatten_nil] at hbytes
  simp only [onQueue, List.append_nil, FeedWriter.flatten_unwritten_withRest, Queue.received,
    List.take_add_one, hfirst, Option.toList_some, List.flatten_append, List.flatten_singleton]
  rw [hbytes, Queue.received]

/-- The socket takes some bytes of the buffer. -/
lemma Delivers.sent (h : f.Delivers hello cut) {rest : Bytes} (hwriter : f.writer = .writing rest)
    (count : Nat) :
    ({ f with writer := .withRest (rest.drop count)
              sent := f.sent ++ rest.take count } : SocketFeed).Delivers hello cut := by
  obtain rfl := h.cut_eq_nil (by rw [hwriter]; exact FeedWriter.noConfusion)
  obtain ⟨bytes, hsent, hbytes⟩ := h.bytes
  refine ⟨h.taken, ⟨bytes ++ rest.take count, by rw [hsent, List.append_assoc], ?_⟩,
    fun hcut => absurd rfl hcut⟩
  simp only [hwriter, FeedWriter.unwritten, List.append_nil, List.flatten_singleton] at hbytes
  rw [List.append_nil, FeedWriter.flatten_unwritten_withRest, List.append_assoc,
    List.take_append_drop]
  exact hbytes

/-- The reader has nothing to do with orders. -/
lemma of_read? {move : FeedReader.Move} (h : f.read? move = some g) :
    g.publication = f.publication ∧ g.writer = f.writer ∧ g.sent = f.sent := by
  unfold read? at h
  split at h
  · split_ifs at h
    cases h
    exact ⟨rfl, rfl, rfl⟩
  · split_ifs at h
    cases h
    exact ⟨rfl, rfl, rfl⟩
  · split_ifs at h
    cases h
    exact ⟨rfl, rfl, rfl⟩
  · split at h
    · split_ifs at h <;> (cases h; exact ⟨rfl, rfl, rfl⟩)
    · cases h

/-- **The socket gets what is taken out of the queue**, and no step but an offer changes what was
accepted. -/
theorem Delivers.step (h : f.Delivers hello cut) {action : Action}
    (hoffer : ∀ buffer, action ≠ .offer buffer) (hstep : f.step? action = some g) :
    g.Delivers hello (cut ++ f.cutAt action)
      ∧ g.publication.queue.log = f.publication.queue.log
      ∧ g.publication.position = f.publication.position := by
  have uncut {g : SocketFeed} (hnone : f.cutAt action = []) (hg : g.Delivers hello cut) :
      g.Delivers hello (cut ++ f.cutAt action) := by rwa [hnone, List.append_nil]
  cases action with
  | read move =>
      obtain ⟨hpublication, hwriter, hsent⟩ := of_read? hstep
      exact ⟨uncut rfl (h.congr hpublication hwriter hsent), by rw [hpublication],
        by rw [hpublication]⟩
  | write move =>
      simp only [step?, write?] at hstep
      split at hstep
      · next hwriter =>
          split at hstep
          · next buffer queue htake =>
              cases hstep
              obtain ⟨first, -, heq⟩ := Option.map_eq_some_iff.1 htake
              cases heq
              exact ⟨uncut rfl (h.dequeue hwriter htake), rfl, rfl⟩
          · split_ifs at hstep
            cases hstep
            have hend := h.endWriter
            rw [hwriter, FeedWriter.unwritten, List.append_nil] at hend
            exact ⟨uncut rfl hend, rfl, rfl⟩
      · next rest count hwriter =>
          split_ifs at hstep
          cases hstep
          exact ⟨uncut rfl (h.sent hwriter count), rfl, rfl⟩
      · next rest error hwriter =>
          cases hstep
          have htold : (f.tell [.publicationEnded error]).Delivers hello cut := h.congr rfl rfl rfl
          exact ⟨htold.endWriter, rfl, rfl⟩
      · cases hstep
  | poll =>
      simp only [step?] at hstep
      split_ifs at hstep
      cases hstep
      exact ⟨uncut rfl (h.congr rfl rfl rfl), rfl, rfl⟩
  | offer buffer => exact absurd rfl (hoffer buffer)
  | dropSubscription =>
      cases hstep
      exact ⟨uncut rfl (h.congr rfl rfl rfl), rfl, rfl⟩
  | dropPublication =>
      cases hstep
      exact ⟨uncut rfl (h.extend rfl rfl (List.append_nil _).symm rfl), rfl, rfl⟩
  | disconnect =>
      cases hstep
      have hended : f.endReader.Delivers hello cut := h.congr rfl rfl rfl
      exact ⟨hended.endWriter.congr rfl rfl rfl, rfl, rfl⟩

end Delivers

end SocketFeed

end MarketGate
