import MarketGate.Proofs.System.Feed
import Mathlib.Data.List.Induction

/-!
# Traces of a run

A run leaves traces: what was sent to the hub and by whom, what was taken away from the publication,
which messages were dealt with.  Each step adds something to a trace, and what it adds can be told
from the states around it (`System.trace`).

A trace grows at its end, so what is claimed of traces is proved by adding one step to a run
(**`System.run_induction`**).

* `Interleaves` says that a list is put together from several, each of which keeps its order.
* `System.requests` are the requests that were sent to the hub, with their senders, and
  `System.sentBy` are those of one sender.
* **`System.Wired.served_append_mailbox`**: the hub serves the requests in the order in which they
  were sent, and the others wait in its mailbox.
-/

namespace MarketGate

/-! ## Interleavings -/

/-- Whether a list is put together from one list for every number, each in its own order. -/
def Interleaves {α : Type} (parts : Nat → List α) (whole : List α) : Prop :=
  ∃ tagged : List (Nat × α), tagged.map Prod.snd = whole
    ∧ ∀ k, (tagged.filter fun x => x.1 = k).map Prod.snd = parts k

/-- What is found in a list is put together from what is found for each owner. -/
lemma interleaves_filterMap {α β : Type} (entries : List β) (owner : β → Nat)
    (find? : β → Option α) :
    Interleaves (fun k => (entries.filter fun x => owner x = k).filterMap find?)
      (entries.filterMap find?) := by
  refine ⟨entries.filterMap fun x => (find? x).map fun a => (owner x, a), ?_, fun k => ?_⟩
  · rw [List.map_filterMap]
    exact List.filterMap_congr fun x _ => by cases find? x <;> rfl
  · induction entries with
    | nil => rfl
    | cons x rest ih =>
        by_cases hx : owner x = k <;> cases hfind : find? x <;>
          simp only [List.filterMap_cons, List.filter_cons, Option.map_some, Option.map_none, hx,
            hfind, decide_true, decide_false, if_true, List.map_cons, ih, Bool.false_eq_true,
            if_false]

/-! ## Who makes a step -/

/-- Who may send something to the hub. -/
inductive Sender where
  /-- The reader of the client at a position. -/
  | reader (client : Nat)
  | bridge
  | other
  deriving DecidableEq, Repr

/-- Who makes a step. -/
def Action.sender : Action → Sender
  | .read p _ => .reader p
  | .bridge => .bridge
  | _ => .other

namespace System

/-- What the steps of a run give, one after another. -/
def trace {α : Type} (given : Action → System → System → List α) :
    List Action → System → List α
  | [], _ => []
  | action :: rest, s =>
    match s.step? action with
    | some s' => given action s s' ++ trace given rest s'
    | none => []

/-- The requests that are put into the mailbox in the course of a run, with their senders. -/
def requests : List Action → System → List (Sender × Command) :=
  trace fun action s s' => (s'.mailbox.drop s.mailbox.length).map fun c => (action.sender, c)

/-- The requests of one sender that are put into the mailbox in the course of a run. -/
def sentBy (who : Sender) (actions : List Action) (s : System) : List Command :=
  ((requests actions s).filter fun r => r.1 = who).map Prod.snd

section Trace

variable {s t : System} {actions : List Action} {action : Action}

lemma trace_cons {α : Type} {given : Action → System → System → List α} {s' : System}
    (hstep : s.step? action = some s') :
    trace given (action :: actions) s = given action s s' ++ trace given actions s' := by
  rw [trace, hstep]

/-- A step at the end of a run adds to the end of a trace. -/
lemma trace_concat {α : Type} {given : Action → System → System → List α} {t' : System}
    (hrun : run? actions s = some t) (hstep : t.step? action = some t') :
    trace given (actions ++ [action]) s = trace given actions s ++ given action t t' := by
  induction actions generalizing s with
  | nil =>
      obtain rfl := Option.some.inj hrun
      rw [List.nil_append, trace_cons hstep]
      exact List.append_nil _
  | cons first rest ih =>
      obtain ⟨s', hfirst, hrest⟩ := run?_cons hrun
      rw [List.cons_append, trace_cons hfirst, trace_cons hfirst, ih hrest, List.append_assoc]

/-- A run goes by a rule if both of its parts do. -/
lemma follows_append {rule : Action → System → Bool} {later : List Action}
    (hrun : run? actions s = some t) :
    follows rule (actions ++ later) s = (follows rule actions s && follows rule later t) := by
  induction actions generalizing s with
  | nil =>
      obtain rfl := Option.some.inj hrun
      rw [List.nil_append, follows, Bool.true_and]
  | cons first rest ih =>
      obtain ⟨s', hfirst, hrest⟩ := run?_cons hrun
      rw [List.cons_append, follows_cons hfirst, follows_cons hfirst, ih hrest, Bool.and_assoc]

/-- A step at the end of a run goes by a rule, and so does the run up to it. -/
lemma follows_concat {rule : Action → System → Bool} (hrun : run? actions s = some t) :
    follows rule (actions ++ [action]) s = (follows rule actions s && rule action t) := by
  rw [follows_append hrun, follows]
  cases t.step? action <;> simp [follows]

/-- What a sender sends in a step at the end of a run comes last. -/
lemma sentBy_concat {t' : System} (who : Sender) (hrun : run? actions s = some t)
    (hstep : t.step? action = some t') :
    sentBy who (actions ++ [action]) s = sentBy who actions s
      ++ if action.sender = who then t'.mailbox.drop t.mailbox.length else [] := by
  rw [sentBy, sentBy, requests, trace_concat hrun hstep, List.filter_append, List.map_append]
  congr 1
  generalize t'.mailbox.drop t.mailbox.length = sent
  rw [List.filter_map, List.map_map]
  by_cases hwho : action.sender = who <;> simp [hwho, Function.comp_def]

/-- What arrives in a step at the end of a run arrives last. -/
lemma arrivals_concat :
    arrivals (actions ++ [action]) = arrivals actions ++ action.fragment?.toList := by
  cases hfragment : action.fragment? <;> simp [arrivals, hfragment]

/-- **Induction over a run, step by step from its start.** -/
theorem run_induction {P : List Action → System → Prop} (hstart : P [] s)
    (hkeep : ∀ past action u u', run? past s = some u → P past u → u.step? action = some u' →
      P (past ++ [action]) u')
    (hrun : run? actions s = some t) : P actions t := by
  induction actions using List.reverseRecOn generalizing t with
  | nil =>
      obtain rfl := Option.some.inj hrun
      exact hstart
  | append_singleton past action ih =>
      rw [run?_append] at hrun
      obtain ⟨u, hpast, hlast⟩ := Option.bind_eq_some_iff.1 hrun
      obtain ⟨u', hstep, hnil⟩ := run?_cons hlast
      obtain rfl := Option.some.inj hnil
      exact hkeep past action u u' hpast (ih hpast) hstep

/-- A running hub takes requests at one end of its mailbox and serves them at the other. -/
lemma Course.mailbox_eq {s' : System} {label : Option Command} (h : s.Course label s')
    (hloop : s'.loop = .running) :
    label.toList ++ s'.mailbox = s.mailbox ++ s'.mailbox.drop s.mailbox.length := by
  cases h with
  | still sent hstill hmailbox => rw [hmailbox, List.drop_left, Option.toList_none, List.nil_append]
  | connect peer => rw [List.drop_length, Option.toList_none, List.nil_append, List.append_nil]
  | @act p v v' _ hview hact hup =>
      obtain ⟨-, -, hmailbox, -⟩ := view?_eq_some_iff.1 hview
      rw [hup.mailbox, hmailbox, Option.toList_none, List.nil_append]
      rcases hact.mailbox_cases with hsame | ⟨c, hadd, -⟩
      · rw [hsame, List.drop_length, List.append_nil]
      · rw [hadd, List.drop_left]
  | serve hrun hmailbox =>
      rw [hmailbox, List.length_cons, List.drop_of_length_le (Nat.le_succ _), List.append_nil]
      rfl
  | stop | lose => cases hloop

/-- **What was sent to a running hub was served or waits**, in the order in which it was sent. -/
theorem Wired.served_append_mailbox (hw : s.Wired)
    (horderly : ∀ action ∈ actions, action.isOrderly = true) (hrun : run? actions s = some t)
    (hloop : t.loop = .running) :
    served actions s ++ t.mailbox = s.mailbox ++ (requests actions s).map Prod.snd := by
  induction actions generalizing s with
  | nil =>
      obtain rfl := Option.some.inj hrun
      exact (List.append_nil _).symm
  | cons action actions ih =>
      obtain ⟨s', hstep, hrest⟩ := run?_cons hrun
      have hcourse := hw.course (horderly action List.mem_cons_self) hstep
      have hw' := hw.of_course hcourse
      have horderly' := fun a ha => horderly a (List.mem_cons_of_mem _ ha)
      have hmailbox := hcourse.mailbox_eq (hw'.running_run horderly' hrest hloop)
      have hlater := ih hw' horderly' hrest
      rw [requests] at hlater ⊢
      rw [served_cons hstep, trace_cons hstep, List.append_assoc, hlater, ← List.append_assoc,
        hmailbox, List.map_append, List.map_map, List.append_assoc]
      congr 2
      exact (List.map_id' _).symm

end Trace

end System

end MarketGate
