import Mathlib
import QueryConsole.Catalog.Library
import QueryConsole.Proofs.Catalog.Recency
/-!
# How stale a message may be

Messages come from catalogs that all services keep in one cache. `visitsFrom`
are the lookups of catalogs that calls for messages make, and they follow one
another from the empty cache (`follow_visitsFrom`), so what the cache remembers
says of each which file it gives and when it loads (`Visit.Exact`). A message is
what its lookups come to (`Call.get_eq`). Over a directory that does not change
the cache makes no difference (`Call.get_eq_getAnew`). `staleness_of_calls` puts
these together.
-/

namespace QueryConsole.Catalog

/-! ## The visits of a search -/

namespace Service

/-- The visits of a search for the message of a key: there is one more only
where a catalog has no message of the key. -/
def visits (s : Service) (d : Directory) (key : Text) : List Text → Cache → List Visit
  | [], _ => []
  | language :: rest, c =>
    let v : Visit := ⟨d, ⟨s.number, language⟩, c⟩
    match v.answer.toOption.map fun catalog => entry? key catalog with
    | some (.ok none) => v :: s.visits d key rest v.after
    | _ => [v]

/-- The message that the answers of visits come to. -/
def heard (key : Text) : List (Except Document.Fault Json) → Except Fault Json
  | [] => .ok (.string key)
  | .error fault :: _ => .error (.document fault)
  | .ok catalog :: rest =>
    match entry? key catalog with
    | .error fault => .error fault
    | .ok (some message) => .ok message
    | .ok none => heard key rest

variable (s : Service) (d : Directory) (key : Text)

/-- A search gives what its visits come to, and leaves the cache that they
lead to. -/
theorem find_eq (languages : List Text) (c : Cache) :
    (s.find d key languages c).1 = heard key ((s.visits d key languages c).map Visit.answer) ∧
      Follow c (s.visits d key languages c) (s.find d key languages c).2 := by
  induction languages generalizing c with
  | nil => simp [find, visits, heard, Follow]
  | cons language rest ih =>
    obtain ⟨v, hv⟩ : ∃ v : Visit, v = ⟨d, ⟨s.number, language⟩, c⟩ := ⟨_, rfl⟩
    have looked : c.lookup d ⟨s.number, language⟩ = (v.answer, v.after) := by rw [hv]; rfl
    have start : v.cache = c := by rw [hv]
    unfold find visits
    simp only [looked, ← hv]
    cases answered : v.answer with
    | error fault => simp [Except.toOption, heard, Follow, answered, start]
    | ok catalog =>
      cases entry : entry? key catalog with
      | error fault => simp [Except.toOption, heard, Follow, answered, start, entry]
      | ok message =>
        cases message with
        | some message => simp [Except.toOption, heard, Follow, answered, start, entry]
        | none =>
          have := ih v.after
          simp [Except.toOption, heard, Follow, answered, start, entry, this]

/-- The visits are the service's own, to the directory as it is. -/
theorem of_mem_visits {languages : List Text} {c : Cache} {v : Visit}
    (h : v ∈ s.visits d key languages c) : v.key.service = s.number ∧ v.directory = d := by
  induction languages generalizing c with
  | nil => simp [visits] at h
  | cons language rest ih =>
    unfold visits at h
    dsimp only at h
    split at h
    · rcases List.mem_cons.1 h with rfl | h
      · exact ⟨rfl, rfl⟩
      · exact ih h
    · rw [List.mem_singleton.1 h]
      exact ⟨rfl, rfl⟩

end Service

/-! ## A cache that agrees with a directory -/

/-- What the cache holds for a service is what a directory holds. -/
def Cache.Agrees (service : Nat) (d : Directory) (c : Cache) : Prop :=
  ∀ language catalog, List.lookup ⟨service, language⟩ c = some catalog →
    d.load language = .ok catalog

namespace Cache.Agrees

variable {s : Service} {d : Directory} {c : Cache}

/-- A lookup gives what the directory holds, and agreement is kept. -/
theorem lookup (h : c.Agrees s.number d) (language : Text) :
    (c.lookup d ⟨s.number, language⟩).1 = d.load language ∧
      ((c.lookup d ⟨s.number, language⟩).2).Agrees s.number d := by
  let v : Visit := ⟨d, ⟨s.number, language⟩, c⟩
  change v.answer = d.load language ∧ v.after.Agrees s.number d
  refine ⟨?_, fun other catalog held => ?_⟩
  · by_cases loads : v.loads
    · exact Visit.answer_of_loads loads
    · obtain ⟨catalog, kept⟩ := Option.ne_none_iff_exists'.1 (mt Visit.loads_iff_lookup.2 loads)
      rw [(Visit.of_kept kept).1]
      exact (h language catalog kept).symm
  · rcases lookup_after held with ⟨held, -⟩ | ⟨-, loaded⟩
    · exact h other catalog held
    · exact loaded

/-- A search gives what it gives over the files themselves. -/
theorem find (h : c.Agrees s.number d) (key : Text) (languages : List Text) :
    (s.find d key languages c).1 = Messages.find ⟨d, s.defaultLanguage⟩ key languages := by
  induction languages generalizing c with
  | nil => rfl
  | cons language rest ih =>
    obtain ⟨answer, agrees⟩ := h.lookup language
    unfold Service.find Messages.find
    rw [← Prod.eta (c.lookup d ⟨s.number, language⟩), answer]
    cases d.load language with
    | error fault => rfl
    | ok catalog =>
      dsimp only
      cases entry? key catalog with
      | error fault => rfl
      | ok message =>
        cases message with
        | some message => rfl
        | none => exact ih agrees

/-- A message is what it is without any cache. -/
theorem get (h : c.Agrees s.number d) (key : Text) (locale : Option Text)
    (arguments : Template.Arguments) :
    (s.get d key locale arguments c).1 =
      Messages.get ⟨d, s.defaultLanguage⟩ key locale arguments := by
  unfold Service.get Messages.get Messages.languages
  rw [← h.find]
  generalize s.find d key _ c = found
  obtain ⟨message | message, c'⟩ := found <;> rfl

end Cache.Agrees

/-! ## Calls for messages -/

/-- **A call for a message** of a service, with the service's directory as it
is at that time. -/
structure Call where
  service : Service
  directory : Directory
  key : Text
  locale : Option Text
  arguments : Template.Arguments
  deriving Repr

namespace Call

/-- The languages in which the key is looked up. -/
def languages (call : Call) : List Text :=
  [firstLanguage call.service.defaultLanguage call.locale, call.service.defaultLanguage]

/-- The message that the service gives, and the cache that this leaves. -/
def get (call : Call) (c : Cache) : Except Fault Json × Cache :=
  match namingFault? call.arguments with
  | some fault => (.error fault, c)
  | none => call.service.get call.directory call.key call.locale call.arguments c

/-- The message where each catalog is read anew. -/
def getAnew (call : Call) : Except Fault Json :=
  match namingFault? call.arguments with
  | some fault => .error fault
  | none =>
    Messages.get ⟨call.directory, call.service.defaultLanguage⟩ call.key call.locale call.arguments

/-- The visits that the call makes. -/
def visits (call : Call) (c : Cache) : List Visit :=
  if (namingFault? call.arguments).isSome then []
  else call.service.visits call.directory call.key call.languages c

/-- The message that the answers of its visits come to. -/
def heard (call : Call) (answers : List (Except Document.Fault Json)) : Except Fault Json :=
  match namingFault? call.arguments with
  | some fault => .error fault
  | none => (Service.heard call.key answers).bind (present call.arguments)

/-- A call gives what its visits come to, and leaves the cache that they lead
to. -/
theorem get_eq (call : Call) (c : Cache) :
    (call.get c).1 = call.heard ((call.visits c).map Visit.answer) ∧
      Follow c (call.visits c) (call.get c).2 := by
  obtain ⟨message, led⟩ := call.service.find_eq call.directory call.key call.languages c
  unfold get heard visits
  cases namingFault? call.arguments with
  | some fault => exact ⟨rfl, rfl⟩
  | none =>
    simp only [Option.isSome_none, Bool.false_eq_true, if_false, ← message]
    revert led
    unfold Service.get languages
    generalize call.service.find _ _ _ c = found
    obtain ⟨message | message, c'⟩ := found <;> exact fun led => ⟨rfl, led⟩

end Call

/-- The cache after calls. -/
def served (c : Cache) (calls : List Call) : Cache :=
  calls.foldl (fun c call => (call.get c).2) c

/-- The visits that calls make one after another. -/
def visitsFrom (c : Cache) : List Call → List Visit
  | [] => []
  | call :: rest => call.visits c ++ visitsFrom (call.get c).2 rest

/-- The visits of calls follow one another. -/
theorem follow_visitsFrom (c : Cache) (calls : List Call) :
    Follow c (visitsFrom c calls) (served c calls) := by
  induction calls generalizing c with
  | nil => rfl
  | cons call rest ih => exact follow_append.2 ⟨_, (call.get_eq c).2, ih _⟩

/-- The visits are those of the calls' services, to their directories. -/
theorem of_mem_visitsFrom {c : Cache} {calls : List Call} {v : Visit}
    (h : v ∈ visitsFrom c calls) :
    ∃ call ∈ calls, v.key.service = call.service.number ∧ v.directory = call.directory := by
  induction calls generalizing c with
  | nil => simp [visitsFrom] at h
  | cons call rest ih =>
    rcases List.mem_append.1 h with h | h
    · refine ⟨call, by simp, ?_⟩
      unfold Call.visits at h
      split at h
      · simp at h
      · exact call.service.of_mem_visits _ _ h
    · obtain ⟨called, mem, own⟩ := ih h
      exact ⟨called, List.mem_cons_of_mem _ mem, own⟩

/-- **Over a directory that does not change** a call gives what it gives where
each catalog is read anew. -/
theorem Call.get_eq_getAnew {call : Call} {calls : List Call}
    (unchanged : ∀ earlier ∈ calls, earlier.service.number = call.service.number →
      earlier.directory = call.directory) :
    (call.get (served [] calls)).1 = call.getAnew := by
  have agrees : (served [] calls).Agrees call.service.number call.directory := by
    intro language catalog kept
    obtain ⟨u, newer, last, loaded⟩ := (follow_visitsFrom [] calls).kept kept
    obtain ⟨older, split⟩ := last.split
    have mem : u ∈ visitsFrom [] calls := by simp [split]
    obtain ⟨earlier, called, service, directory⟩ := of_mem_visitsFrom mem
    rw [last.holds.1.1] at service
    rwa [directory, unchanged earlier called service.symm] at loaded
  unfold Call.get Call.getAnew
  cases namingFault? call.arguments with
  | some fault => rfl
  | none => exact agrees.get call.key call.locale call.arguments

/-! ## The calls of a run -/

namespace Library

/-- The calls that an action makes. -/
def callsOf (l : Library) : Action → List Call
  | .get service key locale arguments =>
    (l.services[service]?.map fun s => ⟨s, l.directory, key, locale, arguments⟩).toList
  | .write .. => []
  | .delete _ => []
  | .openService _ => []

/-- The calls that a run makes. -/
def calls (l : Library) : List Action → List Call
  | [] => []
  | action :: rest => l.callsOf action ++ (l.perform action).calls rest

/-- A service that is open is called. -/
theorem get_of_open {l : Library} {service : Nat} {s : Service}
    (h : l.services[service]? = some s) (key : Text) (locale : Option Text)
    (arguments : Template.Arguments) :
    l.get service key locale arguments =
      let call : Call := ⟨s, l.directory, key, locale, arguments⟩
      (some (call.get l.cache).1, { l with cache := (call.get l.cache).2 }) := by
  unfold get Call.get
  simp only [h]
  cases namingFault? arguments <;> rfl

theorem cache_perform (l : Library) (action : Action) :
    (l.perform action).cache = served l.cache (l.callsOf action) := by
  cases action with
  | get service key locale arguments =>
    unfold perform callsOf
    cases h : l.services[service]? with
    | none => simp [get, h, served]
    | some s => simp [get_of_open h, served, h]
  | write path content => rfl
  | delete path => rfl
  | openService defaultLocale => rfl

/-- **The cache of a run** is what its calls leave. -/
theorem cache_runFrom (l : Library) (actions : List Action) :
    (l.runFrom actions).cache = served l.cache (l.calls actions) := by
  induction actions generalizing l with
  | nil => rfl
  | cons action rest ih =>
    have first : served l.cache (l.calls (action :: rest)) =
        served (served l.cache (l.callsOf action)) ((l.perform action).calls rest) :=
      List.foldl_append
    rw [first, ← cache_perform, ← ih]
    rfl

/-- Services are numbered in the order they are opened. -/
theorem number_of_open {d : Directory} {actions : List Action} {service : Nat} {s : Service}
    (h : ((new d).runFrom actions).services[service]? = some s) : s.number = service := by
  have numbered : ((new d).runFrom actions).services.map Service.number =
      List.range ((new d).runFrom actions).services.length := by
    clear h
    induction actions using List.reverseRecOn with
    | nil => rfl
    | append_singleton before action ih =>
      have step : (new d).runFrom (before ++ [action]) = ((new d).runFrom before).perform action :=
        List.foldl_append
      rw [step]
      cases action with
      | openService defaultLocale => simp [perform, openService, ih, List.range_succ]
      | write path content => exact ih
      | delete path => exact ih
      | get service key locale arguments =>
        cases opened : ((new d).runFrom before).services[service]? with
        | none => simpa [perform, get, opened] using ih
        | some s => simpa [perform, get_of_open opened] using ih
  obtain ⟨there, rfl⟩ := List.getElem?_eq_some_iff.1 h
  have same := congrArg (·[service]?) numbered
  simpa [there] using same

end Library

/-! ## The theorem -/

/-- **What is certain of a visit** that comes after others. -/
structure Visit.Exact (before : List Visit) (v : Visit) : Prop where
  /-- A catalog that it gives is what the directory held at the last
  successful load of the key. -/
  gives : ∀ catalog, v.answer = .ok catalog →
    ∃ u newer, IsLast (Visit.Obtains v.key) u newer (before ++ [v]) ∧
      u.directory.load v.key.language = .ok catalog
  /-- It loads if the key was never found, or sixteen others were since. -/
  loads_iff : v.loads ↔ (∀ u ∈ before, ¬ u.Finds v.key) ∨
    ∃ u newer, IsLast (Visit.Finds v.key) u newer before ∧ 16 ≤ (foundKeys newer).card
  /-- A load is of the file as it is. -/
  loaded : v.loads → v.answer = v.directory.load v.key.language
  /-- A load that fails leaves the cache as it was. -/
  failed : ¬ v.succeeds → v.loads ∧ v.after = v.cache
  /-- There are sixteen catalogs at most. -/
  room : v.cache.length ≤ 16
  /-- There is one of a key at most. -/
  nodup : (v.cache.map Prod.fst).Nodup

theorem Follow.exact {before rest : List Visit} {v : Visit} {c : Cache}
    (h : Follow [] (before ++ v :: rest) c) : v.Exact before where
  gives _ answered := h.before.answer_eq answered
  loads_iff := h.before.loads_iff
  loaded := Visit.answer_of_loads
  failed := Visit.of_failed
  room := h.before.length_le
  nodup := h.before.nodup

/-- **How stale a message may be.** Whatever calls are made of whatever
services, each over its directory as it is at that time: the visits lead from
the empty cache to the one that is left, every visit is exact, the cache has one
catalog of a key and sixteen in all at most, a further call gives what its
visits come to, and what it gives without any cache if its service has found
the directory as it is now. The calls may be those of a library's run, with
services being opened and files written and deleted. -/
theorem staleness_of_calls (calls : List Call) :
    Follow [] (visitsFrom [] calls) (served [] calls) ∧
    (∀ before v rest, visitsFrom [] calls = before ++ v :: rest → v.Exact before) ∧
    (served [] calls).length ≤ 16 ∧ ((served [] calls).map Prod.fst).Nodup ∧
    (∀ call : Call,
      (call.get (served [] calls)).1 =
        call.heard ((call.visits (served [] calls)).map Visit.answer) ∧
      ((∀ earlier ∈ calls, earlier.service.number = call.service.number →
          earlier.directory = call.directory) →
        (call.get (served [] calls)).1 = call.getAnew)) ∧
    ∀ d actions, (Library.new d).calls actions = calls →
      let l := (Library.new d).runFrom actions
      l.cache = served [] calls ∧
      ∀ service s, l.services[service]? = some s → s.number = service ∧
        ∀ key locale arguments, (l.get service key locale arguments).1 =
          some ((⟨s, l.directory, key, locale, arguments⟩ : Call).get (served [] calls)).1 := by
  have led := follow_visitsFrom [] calls
  refine ⟨led, fun before v rest split => (split ▸ led).exact, led.length_le, led.nodup,
    fun call => ⟨(call.get_eq _).1, Call.get_eq_getAnew⟩, ?_⟩
  rintro d actions rfl
  have cache := (Library.new d).cache_runFrom actions
  refine ⟨cache, fun service s opened => ⟨Library.number_of_open opened, ?_⟩⟩
  intro key locale arguments
  rw [Library.get_of_open opened, cache]
  rfl

/-- A service looks a message up in an empty directory, and again when a
file has been written that is no catalog: the file is not seen. Over the empty
directory a further call gives what it gives without any cache. -/
theorem staleness_of_calls_written :
    let call (d : Directory) : Call := ⟨⟨0, "en"⟩, d, "title", none, []⟩
    let written := Directory.empty.write "en.json" (Utf8.encode "[]")
    (∃ before v rest,
      visitsFrom [] [call .empty, call written] = before ++ v :: rest ∧
        v.directory.load "en" = .ok (.array []) ∧ v.Exact before ∧
        v.loads = false ∧ v.answer = .ok (.object [])) ∧
    ((call .empty).get (served [] [call .empty])).1 = (call .empty).getAnew := by
  intro call written
  have visits : visitsFrom [] [call .empty, call written] =
      visitsFrom [] [call .empty] ++ (call written).visits (served [] [call .empty]) := by
    simp [visitsFrom, served]
  have split : ∃ v rest, (call written).visits (served [] [call .empty]) = v :: rest ∧
      v.directory.load "en" = .ok (.array []) ∧ v.loads = false ∧ v.answer = .ok (.object []) :=
    ⟨_, _, rfl, by cbv, by cbv, by cbv⟩
  obtain ⟨v, rest, split, holds, kept, answered⟩ := split
  rw [split] at visits
  exact ⟨⟨_, v, rest, visits, holds,
      (staleness_of_calls [call .empty, call written]).2.1 _ v rest visits, kept, answered⟩,
    ((staleness_of_calls [call .empty]).2.2.2.2.1 (call .empty)).2 (by simp)⟩

end QueryConsole.Catalog
