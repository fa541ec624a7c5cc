import Mathlib.Tactic.Lemma
import MarketGate.Config.Load
import MarketGate.Proofs.Text.Numeral
import MarketGate.Proofs.Text.Utf8

/-!
# What comes of loading a configuration

A process has a value under a name if its variable can be read, or else if a settings file assigns
one (`Environment.value?`).  Each setting goes by the value under its own name and by nothing else:
texts are taken as they are, numbers if they can be read, and where there is nothing to be taken the
setting has its default.  Only a route that is given has to be spelled correctly.

So there is one configuration that goes by the values of a process, unless the route is misspelled,
and it is loaded if it is valid.  And a configuration that is written into the variables of a
process is loaded from them, whatever else the process has.

There is one thing that a settings file can do to all this.  A value with a zero byte in it is not
carried over into the process, and breaks it off, even under a name that no setting has.  Where the
process has a value of its own it does no harm (`Environment.Settable`).

* `Settles` says what a setting that is a number comes to.
* `Config.GoesBy` says that each setting goes by the value under its own name.
* **`Config.goesBy_iff`**: there is one such configuration, unless the route is misspelled.
* `Config.written` is a configuration as it can be written into variables.
* **`Config.load_of_values`**: what is loaded, and when and why nothing is.
-/

namespace MarketGate

/-! ## Values -/

namespace Environment

/-- What a process has under a name: what its variable says, or else the first text that a settings
file assigns. -/
def value? (env : Environment) (assignments : List (String × String)) (name : String) :
    Option String :=
  (env.text? name).or (assignments.lookup name)

section Values

variable {env : Environment} {assignments : List (String × String)} {name text : String}

/-- An assignment fills in a variable that cannot be read, and touches no other. -/
lemma text?_assign_eq (env : Environment) (other value name : String) :
    (env.assign other value).text? name
      = (env.text? name).or (if name = other then some value else none) := by
  by_cases hname : name = other
  · subst hname
    rw [if_pos rfl, assign]
    split
    · next text htext => rw [htext, Option.some_or]
    · next htext =>
        rw [htext, Option.none_or]
        simp only [text?, List.lookup_cons_self, Utf8.decode?_ofString]
  · rw [if_neg hname, Option.or_none, assign]
    split
    · rfl
    · simp only [text?, List.lookup_cons, beq_false_of_ne hname]

lemma value?_nil (env : Environment) : env.value? [] = env.text? :=
  funext fun _ => Option.or_none

/-- What is assigned first comes before the others. -/
lemma value?_cons (env : Environment) (a : String × String) (rest : List (String × String)) :
    env.value? (a :: rest) = (env.assign a.1 a.2).value? rest := by
  funext name
  rw [value?, value?, text?_assign_eq, Option.or_assoc, List.lookup_cons]
  by_cases hname : name = a.1
  · simp [hname]
  · rw [if_neg hname, beq_false_of_ne hname, Option.none_or]

/-- **Assignments fill in the variables that cannot be read**, the first one for each name. -/
theorem text?_assignAll (env : Environment) (assignments : List (String × String)) (name : String) :
    (env.assignAll assignments).text? name = env.value? assignments name := by
  induction assignments generalizing env with
  | nil => rw [value?_nil, assignAll, List.foldl_nil]
  | cons a rest ih =>
      rw [value?_cons]
      exact ih (env.assign a.1 a.2)

/-- A variable that is written can be read. -/
lemma value?_of_lookup (h : env.entries.lookup name = some (Utf8.ofString text)) :
    env.value? assignments name = some text := by
  rw [value?, text?, h]
  simp only [Utf8.decode?_ofString, Option.some_or]

end Values

/-! ### Zero bytes -/

/-- No value that a settings file fills in has a zero byte in it. -/
def Settable (env : Environment) (assignments : List (String × String)) : Prop :=
  ∀ name value, env.text? name = none → assignments.lookup name = some value →
    '\x00' ∉ value.toList

section Settable

variable {env : Environment} {assignments rest : List (String × String)} {name value : String}

lemma settable_nil : env.Settable [] :=
  fun _ _ _ h => nomatch h

lemma settable_of_no_zero (h : ∀ a ∈ assignments, '\x00' ∉ a.2.toList) :
    env.Settable assignments := by
  intro name value _ hlookup
  obtain ⟨before, after, rfl, -⟩ := List.lookup_eq_some_iff.1 hlookup
  exact h (name, value) List.mem_append_cons_self

/-- Only the first value for a name is filled in. -/
lemma settable_cons :
    env.Settable ((name, value) :: rest) ↔
      (env.text? name = none → '\x00' ∉ value.toList) ∧ (env.assign name value).Settable rest := by
  constructor
  · intro h
    refine ⟨fun hnone => h name value hnone List.lookup_cons_self, fun other text hnone htext => ?_⟩
    rw [text?_assign_eq, Option.or_eq_none_iff] at hnone
    have hne : other ≠ name := fun heq => by simp [heq] at hnone
    refine h other text hnone.1 ?_
    rwa [List.lookup_cons, beq_false_of_ne hne]
  · rintro ⟨hfirst, hrest⟩ other text hnone htext
    by_cases hname : other = name
    · subst hname
      rw [List.lookup_cons_self] at htext
      cases htext
      exact hfirst hnone
    · refine hrest other text ?_ ?_
      · rw [text?_assign_eq, hnone, if_neg hname, Option.none_or]
      · rwa [List.lookup_cons, beq_false_of_ne hname] at htext

end Settable

end Environment

namespace SettingsFile

variable {env : Environment} {assignments rest : List (String × String)} {name value : String}

lemma any_toNat_eq_zero_iff : (value.toList.any fun c => c.toNat == 0) ↔ '\x00' ∈ value.toList := by
  rw [List.any_eq_true]
  constructor
  · rintro ⟨c, hc, hzero⟩
    rwa [← show c = '\x00' from Char.toNat_inj.1 (beq_iff_eq.1 hzero)]
  · exact fun h => ⟨'\x00', h, rfl⟩

/-- An assignment is carried out if the variable can be read, or no zero byte is in the value. -/
lemma unsettable?_cons_of_settable (h : env.text? name = none → '\x00' ∉ value.toList) :
    unsettable? env ((name, value) :: rest) = unsettable? (env.assign name value) rest := by
  rw [unsettable?, if_neg]
  rintro ⟨hnone, hzero⟩
  exact h hnone (any_toNat_eq_zero_iff.1 hzero)

lemma unsettable?_cons_of_zero (hnone : env.text? name = none) (hzero : '\x00' ∈ value.toList) :
    unsettable? env ((name, value) :: rest) = some (name, value) := by
  rw [unsettable?, if_pos ⟨hnone, any_toNat_eq_zero_iff.2 hzero⟩]

/-- Behind assignments that can be carried out, the process has their values. -/
lemma unsettable?_append (h : env.Settable assignments) :
    unsettable? env (assignments ++ rest) = unsettable? (env.assignAll assignments) rest := by
  induction assignments generalizing env with
  | nil => rfl
  | cons a assignments ih =>
      obtain ⟨hfirst, hothers⟩ := Environment.settable_cons.1 h
      rw [List.cons_append, unsettable?_cons_of_settable hfirst]
      exact ih hothers

/-- All assignments can be carried out exactly if no value that is filled in has a zero byte. -/
lemma unsettable?_eq_none_iff : unsettable? env assignments = none ↔ env.Settable assignments := by
  induction assignments generalizing env with
  | nil => exact ⟨fun _ => Environment.settable_nil, fun _ => rfl⟩
  | cons a rest ih =>
      rw [Environment.settable_cons]
      by_cases h : env.text? a.1 = none ∧ '\x00' ∈ a.2.toList
      · rw [unsettable?_cons_of_zero h.1 h.2]
        exact iff_of_false (Option.some_ne_none _) fun hboth => hboth.1 h.1 h.2
      · rw [unsettable?_cons_of_settable (not_and.1 h), ih]
        exact (and_iff_right (not_and.1 h)).symm

/-- The assignment that is told is the first one that cannot be carried out. -/
lemma exists_of_unsettable? (h : unsettable? env assignments = some (name, value)) :
    ∃ before after, assignments = before ++ (name, value) :: after
      ∧ env.Settable before ∧ env.value? before name = none ∧ '\x00' ∈ value.toList := by
  induction assignments generalizing env with
  | nil => cases h
  | cons a rest ih =>
      by_cases hzero : env.text? a.1 = none ∧ '\x00' ∈ a.2.toList
      · rw [unsettable?_cons_of_zero hzero.1 hzero.2] at h
        cases h
        refine ⟨[], rest, rfl, Environment.settable_nil, ?_, hzero.2⟩
        rw [Environment.value?_nil]
        exact hzero.1
      · have hfirst := not_and.1 hzero
        rw [unsettable?_cons_of_settable hfirst] at h
        obtain ⟨before, after, rfl, hbefore, hnone, hvalue⟩ := ih h
        refine ⟨a :: before, after, rfl, Environment.settable_cons.2 ⟨hfirst, hbefore⟩, ?_, hvalue⟩
        rwa [Environment.value?_cons]

lemma unsettable?_eq_some_iff :
    unsettable? env assignments = some (name, value) ↔
      ∃ before after, assignments = before ++ (name, value) :: after
        ∧ env.Settable before ∧ env.value? before name = none ∧ '\x00' ∈ value.toList := by
  refine ⟨exists_of_unsettable?, ?_⟩
  rintro ⟨before, after, rfl, hbefore, hnone, hzero⟩
  rw [← Environment.text?_assignAll] at hnone
  rw [unsettable?_append hbefore, unsettable?_cons_of_zero hnone hzero]

end SettingsFile

/-! ## Numbers -/

/-- What a setting comes to that goes by a number below a bound, with what the numbers stand for and
with a default: if the value is such a number, with blanks around it or without, it counts, and
otherwise the default does. -/
inductive Settles {α : Type} (bound : Nat) (ofNat : Nat → α) (default : α)
    (value : Option String) : α → Prop
  | number {text : String} {n : Nat} (hvalue : value = some text)
      (hnumeral : Text.IsNumeral n (Text.trim text.toList)) (hbound : n < bound) :
      Settles bound ofNat default value (ofNat n)
  | default (hnone : ∀ text n, value = some text → Text.IsNumeral n (Text.trim text.toList) →
      bound ≤ n) :
      Settles bound ofNat default value default

section Settles

variable {α : Type} {bound : Nat} {ofNat : Nat → α} {default a : α} {value : Option String}

/-- There is one number that a setting comes to, and it is the one that is read. -/
lemma settles_iff :
    Settles bound ofNat default value a ↔
      ((value.bind fun text => Text.readNat? bound (Text.trim text.toList)).map ofNat).getD default
        = a := by
  cases hread : value.bind fun text => Text.readNat? bound (Text.trim text.toList) with
  | none =>
      have hnone : ∀ text n, value = some text → Text.IsNumeral n (Text.trim text.toList) →
          bound ≤ n := by
        rintro text n rfl hnumeral
        refine Nat.le_of_not_lt fun hlt => ?_
        rw [Option.bind_some, Text.readNat?_eq_some_iff.2 ⟨hnumeral, hlt⟩] at hread
        cases hread
      constructor
      · rintro (⟨hvalue, hnumeral, hbound⟩ | -)
        · exact absurd (hnone _ _ hvalue hnumeral) (Nat.not_le_of_lt hbound)
        · rfl
      · rintro rfl
        exact .default hnone
  | some n =>
      obtain ⟨text, hvalue, hread⟩ := Option.bind_eq_some_iff.1 hread
      obtain ⟨hnumeral, hbound⟩ := Text.readNat?_eq_some_iff.1 hread
      constructor
      · rintro (⟨hvalue', hnumeral', hbound'⟩ | hnone)
        · obtain rfl := Option.some.inj (hvalue.symm.trans hvalue')
          have hread' := Text.readNat?_eq_some_iff.2 ⟨hnumeral', hbound'⟩
          rw [Option.some.inj (hread.symm.trans hread')]
          rfl
        · exact absurd (hnone _ _ hvalue hnumeral) (Nat.not_le_of_lt hbound)
      · rintro rfl
        exact .number hvalue hnumeral hbound

/-- A number that is written is what the setting comes to. -/
lemma settles_of_write {d : Text.Dress} {n : Nat} (hvalue : value = some (d.write n))
    (hbound : n < bound) : Settles bound ofNat default value (ofNat n) := by
  refine .number hvalue ?_ hbound
  rw [d.trim_write]
  exact d.isNumeral_numeral n

end Settles

/-! ## Settings -/

namespace Config

/-- A setting that is a number of 32 bits. -/
abbrev SettlesWord32 := Settles UInt32.size UInt32.ofNat

/-- A setting that is a number of 64 bits. -/
abbrev SettlesWord64 := Settles UInt64.size UInt64.ofNat

/-- A setting that is a span of time, given in milliseconds. -/
abbrev SettlesMillis := Settles UInt64.size fun n => Duration.ofMillis (UInt64.ofNat n)

/-- Each setting of a configuration goes by the value under its own name, and the others do not
matter for it. -/
structure GoesBy (value? : String → Option String) (c : Config) : Prop where
  listenAddr : c.listenAddr = (value? "LISTEN_ADDR").getD ({} : Config).listenAddr
  healthAddr : c.healthAddr = (value? "HEALTH_ADDR").getD ({} : Config).healthAddr
  feedEndpoint : c.feedEndpoint = (value? "FEED_ENDPOINT").getD ({} : Config).feedEndpoint
  orderStream : SettlesWord32 ({} : Config).orderStream (value? "ORDER_STREAM_ID") c.orderStream
  eventStream : SettlesWord32 ({} : Config).eventStream (value? "EVENT_STREAM_ID") c.eventStream
  queueCapacity :
    SettlesWord64 ({} : Config).queueCapacity (value? "OUTBOUND_QUEUE_CAPACITY") c.queueCapacity
  writeWait : SettlesMillis ({} : Config).writeWait (value? "WRITE_WAIT_MS") c.writeWait
  pongWait : SettlesMillis ({} : Config).pongWait (value? "PONG_WAIT_MS") c.pongWait
  pingPeriod : SettlesMillis ({} : Config).pingPeriod (value? "PING_PERIOD_MS") c.pingPeriod
  idleBackoff : SettlesMillis ({} : Config).idleBackoff (value? "IDLE_BACKOFF_MS") c.idleBackoff
  pollBatch : SettlesWord64 ({} : Config).pollBatch (value? "POLL_BATCH_SIZE") c.pollBatch
  connectTimeout :
    SettlesMillis ({} : Config).connectTimeout (value? "FEED_CONNECT_TIMEOUT_MS") c.connectTimeout
  route : match value? "INBOUND_ROUTE" with
    | some text => Route.parse text = .ok c.route
    | none => c.route = ({} : Config).route

section GoesBy

variable {env : Environment} {assignments : List (String × String)} {c : Config} {route : Route}

lemma routeOf_eq_ok_iff :
    routeOf env = .ok route ↔ match env.text? "INBOUND_ROUTE" with
      | some text => Route.parse text = .ok route
      | none => route = ({} : Config).route := by
  unfold routeOf
  cases env.text? "INBOUND_ROUTE" with
  | none => exact ⟨fun h => (Except.ok.inj h).symm, fun h => congrArg Except.ok h.symm⟩
  | some text => cases hparse : Route.parse text <;> simp [hparse]

lemma routeOf_eq_error_iff {e : LoadError} :
    routeOf env = .error e ↔ ∃ given text, env.text? "INBOUND_ROUTE" = some given
      ∧ Route.parse given = .error text ∧ e = .unknownRoute text := by
  unfold routeOf
  cases env.text? "INBOUND_ROUTE" with
  | none => simp
  | some text => cases hparse : Route.parse text <;> simp [hparse, eq_comm]

/-- **There is one configuration that goes by the values of a process**, namely the one that is
made of its variables, unless the route is misspelled. -/
theorem goesBy_iff :
    c.GoesBy env.text? ↔ ∃ route, routeOf env = .ok route ∧ ofVariables env route = c := by
  constructor
  · intro h
    refine ⟨c.route, routeOf_eq_ok_iff.2 h.route, ?_⟩
    simp only [ofVariables, Environment.text, Environment.word32, Environment.word64,
      Environment.millis, Environment.nat?]
    rw [← h.listenAddr, ← h.healthAddr, ← h.feedEndpoint, settles_iff.1 h.orderStream,
      settles_iff.1 h.eventStream, settles_iff.1 h.queueCapacity, settles_iff.1 h.writeWait,
      settles_iff.1 h.pongWait, settles_iff.1 h.pingPeriod, settles_iff.1 h.idleBackoff,
      settles_iff.1 h.pollBatch, settles_iff.1 h.connectTimeout]
  · rintro ⟨route, hroute, rfl⟩
    exact
      { listenAddr := rfl
        healthAddr := rfl
        feedEndpoint := rfl
        orderStream := settles_iff.2 rfl
        eventStream := settles_iff.2 rfl
        queueCapacity := settles_iff.2 rfl
        writeWait := settles_iff.2 rfl
        pongWait := settles_iff.2 rfl
        pingPeriod := settles_iff.2 rfl
        idleBackoff := settles_iff.2 rfl
        pollBatch := settles_iff.2 rfl
        connectTimeout := settles_iff.2 rfl
        route := routeOf_eq_ok_iff.1 hroute }

/-- Where no route is misspelled, the configuration that goes by the variables is checked. -/
lemma build_of_goesBy (h : c.GoesBy env.text?) :
    build env = match c.validate with
      | .ok () => .ok c
      | .error defect => .error (.invalid defect) := by
  obtain ⟨route, hroute, rfl⟩ := goesBy_iff.1 h
  simp only [build, hroute]
  rfl

/-- What comes of building a configuration, by the variables alone. -/
inductive Comes (env : Environment) : Except LoadError Config → Prop
  | valid {c : Config} (h : c.GoesBy env.text?) (hvalid : c.validate = .ok ()) : Comes env (.ok c)
  | invalid {c : Config} {defect : Defect} (h : c.GoesBy env.text?)
      (hdefect : c.validate = .error defect) : Comes env (.error (.invalid defect))
  | misspelled {given text : String} (hgiven : env.text? "INBOUND_ROUTE" = some given)
      (hparse : Route.parse given = .error text) : Comes env (.error (.unknownRoute text))

lemma comes_build (env : Environment) : Comes env (build env) := by
  cases hroute : routeOf env with
  | ok route =>
      have h : (ofVariables env route).GoesBy env.text? := goesBy_iff.2 ⟨route, hroute, rfl⟩
      rw [build_of_goesBy h]
      split
      · next hvalid => exact .valid h hvalid
      · next hdefect => exact .invalid h hdefect
  | error e =>
      obtain ⟨given, text, hgiven, hparse, rfl⟩ := routeOf_eq_error_iff.1 hroute
      simp only [build, hroute]
      exact .misspelled hgiven hparse

/-- One thing comes of it, and it is what is built. -/
lemma build_eq_iff {result : Except LoadError Config} : build env = result ↔ Comes env result := by
  refine ⟨fun h => h ▸ comes_build env, fun h => ?_⟩
  cases h with
  | valid h hvalid => rw [build_of_goesBy h, hvalid]
  | invalid h hdefect => rw [build_of_goesBy h, hdefect]
  | misspelled hgiven hparse =>
      simp only [build, routeOf_eq_error_iff.2 ⟨_, _, hgiven, hparse, rfl⟩]
      rfl

/-- What is built goes by the variables and is valid. -/
lemma build_eq_ok_iff : build env = .ok c ↔ c.GoesBy env.text? ∧ c.validate = .ok () := by
  rw [build_eq_iff]
  exact ⟨fun | .valid h hvalid => ⟨h, hvalid⟩, fun h => .valid h.1 h.2⟩

/-- A route that is given and misspelled is told. -/
lemma build_eq_unknownRoute_iff {text : String} :
    build env = .error (.unknownRoute text) ↔
      ∃ given, env.text? "INBOUND_ROUTE" = some given ∧ Route.parse given = .error text := by
  rw [build_eq_iff]
  exact ⟨fun | .misspelled hgiven hparse => ⟨_, hgiven, hparse⟩, fun ⟨_, h⟩ => .misspelled h.1 h.2⟩

/-- The first defect of what goes by the variables is told. -/
lemma build_eq_invalid_iff {defect : Defect} :
    build env = .error (.invalid defect) ↔
      ∃ c : Config, c.GoesBy env.text? ∧ c.validate = .error defect := by
  rw [build_eq_iff]
  exact ⟨fun | .invalid h hdefect => ⟨_, h, hdefect⟩, fun ⟨_, h⟩ => .invalid h.1 h.2⟩

/-- No process breaks off once the settings file is through. -/
lemma build_ne_unsettable {name value : String} : build env ≠ .error (.unsettable name value) := by
  intro h
  cases build_eq_iff.1 h

/-- What does not break the process off comes from what is built behind the settings file. -/
lemma load_eq_iff {result : Except LoadError Config}
    (h : ∀ name value, result ≠ .error (.unsettable name value)) :
    load env assignments = result ↔
      env.Settable assignments ∧ build (env.assignAll assignments) = result := by
  rw [load, ← SettingsFile.unsettable?_eq_none_iff]
  cases SettingsFile.unsettable? env assignments with
  | none => exact ⟨fun hresult => ⟨rfl, hresult⟩, fun hresult => hresult.2⟩
  | some a => exact ⟨fun hresult => absurd hresult.symm (h _ _), fun hresult => nomatch hresult.1⟩

lemma load_eq_ok_iff :
    load env assignments = .ok c ↔
      env.Settable assignments ∧ c.GoesBy (env.value? assignments) ∧ c.validate = .ok () := by
  rw [load_eq_iff (by simp), build_eq_ok_iff,
    funext (Environment.text?_assignAll env assignments)]

lemma load_eq_unsettable_iff {name value : String} :
    load env assignments = .error (.unsettable name value) ↔
      SettingsFile.unsettable? env assignments = some (name, value) := by
  rw [load]
  cases SettingsFile.unsettable? env assignments with
  | none => exact ⟨fun h => absurd h build_ne_unsettable, fun h => nomatch h⟩
  | some a => simp [Prod.ext_iff]

end GoesBy

/-! ## Writing a configuration -/

/-- The spans of time among the settings. -/
def spans (c : Config) : List Duration :=
  [c.writeWait, c.pongWait, c.pingPeriod, c.idleBackoff, c.connectTimeout]

/-- A configuration as variables.  Each number is dressed in its own way, and the route may be any
spelling. -/
def written (dress : String → Text.Dress) (route : String) (c : Config) :
    List (String × String) :=
  let number (name : String) (n : Nat) : String × String := (name, (dress name).write n)
  [("LISTEN_ADDR", c.listenAddr), ("HEALTH_ADDR", c.healthAddr), ("FEED_ENDPOINT", c.feedEndpoint),
    number "ORDER_STREAM_ID" c.orderStream.toNat, number "EVENT_STREAM_ID" c.eventStream.toNat,
    number "OUTBOUND_QUEUE_CAPACITY" c.queueCapacity.toNat,
    number "WRITE_WAIT_MS" c.writeWait.millis, number "PONG_WAIT_MS" c.pongWait.millis,
    number "PING_PERIOD_MS" c.pingPeriod.millis, number "IDLE_BACKOFF_MS" c.idleBackoff.millis,
    number "POLL_BATCH_SIZE" c.pollBatch.toNat,
    number "FEED_CONNECT_TIMEOUT_MS" c.connectTimeout.millis, ("INBOUND_ROUTE", route)]

section Written

variable {value? : String → Option String} {value : Option String} {d : Text.Dress}

lemma settlesWord32_of_write {default w : UInt32} (hvalue : value = some (d.write w.toNat)) :
    SettlesWord32 default value w := by
  have h : SettlesWord32 default value (UInt32.ofNat w.toNat) :=
    settles_of_write hvalue w.toNat_lt
  rwa [UInt32.ofNat_toNat] at h

lemma settlesWord64_of_write {default w : UInt64} (hvalue : value = some (d.write w.toNat)) :
    SettlesWord64 default value w := by
  have h : SettlesWord64 default value (UInt64.ofNat w.toNat) :=
    settles_of_write hvalue w.toNat_lt
  rwa [UInt64.ofNat_toNat] at h

lemma eq_of_nanos {span span' : Duration} (h : span.nanos = span'.nanos) : span = span' := by
  cases span
  cases span'
  cases h
  rfl

/-- A span of whole milliseconds is made up by them, unless it is too long. -/
lemma ofMillis_millis {span : Duration} (hwhole : nanosPerMilli ∣ span.nanos)
    (hbound : span.millis < UInt64.size) :
    Duration.ofMillis (UInt64.ofNat span.millis) = span := by
  refine eq_of_nanos ?_
  calc
    (UInt64.ofNat span.millis).toNat * nanosPerMilli = span.millis * nanosPerMilli := by
      rw [UInt64.toNat_ofNat_of_lt' hbound]
    _ = span.nanos := Nat.div_mul_cancel hwhole

/-- So it can be written in milliseconds. -/
lemma settlesMillis_of_write {default span : Duration} (hwhole : nanosPerMilli ∣ span.nanos)
    (hbound : span.millis < UInt64.size) (hvalue : value = some (d.write span.millis)) :
    SettlesMillis default value span := by
  have h : SettlesMillis default value (Duration.ofMillis (UInt64.ofNat span.millis)) :=
    settles_of_write hvalue hbound
  rwa [ofMillis_millis hwhole hbound] at h

/-- What was written goes by what it was written into. -/
lemma goesBy_of_written {c : Config} {dress : String → Text.Dress} {route : String}
    (hwhole : ∀ span ∈ c.spans, nanosPerMilli ∣ span.nanos ∧ span.millis < UInt64.size)
    (hroute : Route.parse route = .ok c.route)
    (hwritten : ∀ v ∈ c.written dress route, value? v.1 = some v.2) : c.GoesBy value? := by
  simp only [spans, List.forall_mem_cons, List.not_mem_nil, false_imp_iff, implies_true,
    and_true] at hwhole
  obtain ⟨hwrite, hpong, hping, hidle, hconnect⟩ := hwhole
  simp only [written, List.forall_mem_cons, List.not_mem_nil, false_imp_iff, implies_true,
    and_true] at hwritten
  obtain ⟨hlisten, hhealth, hfeed, horders, hevents, hqueue, hwrite', hpong', hping', hidle',
    hbatch, hconnect', hroute'⟩ := hwritten
  exact
    { listenAddr := by rw [hlisten, Option.getD_some]
      healthAddr := by rw [hhealth, Option.getD_some]
      feedEndpoint := by rw [hfeed, Option.getD_some]
      orderStream := settlesWord32_of_write horders
      eventStream := settlesWord32_of_write hevents
      queueCapacity := settlesWord64_of_write hqueue
      writeWait := settlesMillis_of_write hwrite.1 hwrite.2 hwrite'
      pongWait := settlesMillis_of_write hpong.1 hpong.2 hpong'
      pingPeriod := settlesMillis_of_write hping.1 hping.2 hping'
      idleBackoff := settlesMillis_of_write hidle.1 hidle.2 hidle'
      pollBatch := settlesWord64_of_write hbatch
      connectTimeout := settlesMillis_of_write hconnect.1 hconnect.2 hconnect'
      route := by
        rw [hroute']
        exact hroute }

end Written

/-- **What comes of loading a configuration.**  What is loaded is the one configuration that goes by
the values of the process, if it is valid: each setting goes by its own name, and the variables of
the process come before the settings file.  An error is given exactly if a route is given and
misspelled, or the configuration that goes by the values is not valid.

All this is so as long as no value with a zero byte has to be filled in from the settings file.  The
first one breaks the process off.

And a valid configuration whose spans are whole milliseconds, fewer than 64 bits of them, is loaded
from the variables that it is written into, however the numbers are dressed and the route is
spelled, whatever other variables there are and whatever else the settings file assigns. -/
theorem load_of_values (env : Environment) (assignments : List (String × String)) :
    (∀ c, load env assignments = .ok c ↔
        env.Settable assignments ∧ c.GoesBy (env.value? assignments) ∧ c.validate = .ok ())
      ∧ (∀ text, load env assignments = .error (.unknownRoute text) ↔
        env.Settable assignments ∧ ∃ given, env.value? assignments "INBOUND_ROUTE" = some given
          ∧ Route.parse given = .error text)
      ∧ (∀ defect, load env assignments = .error (.invalid defect) ↔
        env.Settable assignments ∧ ∃ c : Config, c.GoesBy (env.value? assignments)
          ∧ c.validate = .error defect)
      ∧ (∀ name value, load env assignments = .error (.unsettable name value) ↔
        ∃ before after, assignments = before ++ (name, value) :: after
          ∧ env.Settable before ∧ env.value? before name = none ∧ '\x00' ∈ value.toList)
      ∧ ∀ (c : Config) (dress : String → Text.Dress) (route : String), c.validate = .ok () →
        (∀ span ∈ c.spans, nanosPerMilli ∣ span.nanos ∧ span.millis < UInt64.size) →
        Route.parse route = .ok c.route →
        (∀ v ∈ c.written dress route,
          env.entries.lookup v.1 = some (Utf8.ofString v.2)) →
        env.Settable assignments → load env assignments = .ok c := by
  refine ⟨fun c => load_eq_ok_iff, fun text => ?_, fun defect => ?_,
    fun name value => load_eq_unsettable_iff.trans SettingsFile.unsettable?_eq_some_iff, ?_⟩
  · rw [load_eq_iff (by simp), build_eq_unknownRoute_iff,
      Environment.text?_assignAll]
  · rw [load_eq_iff (by simp), build_eq_invalid_iff,
      funext (Environment.text?_assignAll env assignments)]
  · intro c dress route hvalid hwhole hroute hwritten hsettable
    have hvalues : ∀ v ∈ c.written dress route, env.value? assignments v.1 = some v.2 :=
      fun v hv => Environment.value?_of_lookup (hwritten v hv)
    exact load_eq_ok_iff.2 ⟨hsettable, goesBy_of_written hwhole hroute hvalues, hvalid⟩

/-- A relay that pings every 1500 milliseconds, written with blanks, zeros and plus signs into an
environment that has more in it, comes back, and what the settings file says does not matter, not
even a zero byte for a variable that is set.  A settings file alone can misspell the route. -/
theorem load_of_dressed_values :
    let c : Config :=
      { route := .relay, eventStream := 4294967295, pollBatch := 18446744073709551615,
        pingPeriod := { nanos := 1500 * nanosPerMilli } }
    let dress (name : String) : Text.Dress :=
      if name = "PING_PERIOD_MS" then
        { before := [' ', '\u3000'], plus := true, zeros := 3, after := ['\n'] }
      else if name = "POLL_BATCH_SIZE" then { plus := true }
      else {}
    let entries := (c.written dress "\tBroadCast ").map fun v => (v.1, Utf8.ofString v.2)
    let env : Environment := ⟨("PATH", [0xff]) :: entries⟩
    load env [("HEALTH_ADDR", "\x00"), ("PING_PERIOD_MS", "7"), ("INBOUND_ROUTE", "nowhere")]
        = .ok c
      ∧ load {} [("INBOUND_ROUTE", " NoWhere"), ("INBOUND_ROUTE", "relay\x00")]
        = .error (.unknownRoute "nowhere") := by
  intro c dress entries env
  obtain ⟨-, -, -, -, hwritten⟩ := load_of_values env
    [("HEALTH_ADDR", "\x00"), ("PING_PERIOD_MS", "7"), ("INBOUND_ROUTE", "nowhere")]
  obtain ⟨-, hmisspelled, -⟩ :=
    load_of_values {} [("INBOUND_ROUTE", " NoWhere"), ("INBOUND_ROUTE", "relay\x00")]
  refine ⟨hwritten c dress "\tBroadCast " rfl ?_ ?_ ?_ ?_,
    (hmisspelled _).2 ⟨?_, " NoWhere", ?_, ?_⟩⟩
  · decide
  · rfl
  · decide
  · have hlookup : env.entries.lookup "HEALTH_ADDR" = some (Utf8.ofString "0.0.0.0:9090") := by
      decide
    have hset : env.text? "HEALTH_ADDR" = some "0.0.0.0:9090" := by
      rw [← Environment.value?_nil]
      exact Environment.value?_of_lookup hlookup
    rw [Environment.settable_cons, hset]
    exact ⟨fun hnone => (nomatch hnone), Environment.settable_of_no_zero (by decide)⟩
  · rw [Environment.settable_cons, Environment.settable_cons, Environment.text?_assign_eq]
    exact ⟨fun _ => by decide, fun hnone => (nomatch hnone), Environment.settable_nil⟩
  · decide
  · rfl

/-- **A zero byte breaks the process off** where no setting is concerned: the file assigns something
else, the configuration is the default one and valid, and still nothing is loaded. -/
theorem unsettable_of_zero_byte :
    let assignments := SettingsFile.assignments {} (Utf8.ofString "REMARK=a\x00b\n")
    let value? := Environment.value? {} assignments
    ({} : Config).GoesBy value? ∧ ({} : Config).validate = .ok ()
      ∧ value? "INBOUND_ROUTE" = none
      ∧ load {} assignments = .error (.unsettable "REMARK" "a\x00b") := by
  have hassigned : SettingsFile.assignments {} (Utf8.ofString "REMARK=a\x00b\n")
      = [("REMARK", "a\x00b")] := by decide
  simp only [hassigned]
  refine ⟨?_, rfl, rfl, ?_⟩
  · rw [← funext (Environment.text?_assignAll {} _)]
    exact (build_eq_ok_iff.1 rfl).1
  · rw [load_eq_unsettable_iff]
    exact SettingsFile.unsettable?_cons_of_zero rfl (by decide)

end Config

end MarketGate
