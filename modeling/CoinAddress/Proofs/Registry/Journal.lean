import CoinAddress.Proofs.Config.Loading
import CoinAddress.Proofs.Registry.Batch
import CoinAddress.Proofs.Registry.Removal

/-!
# The journal

The journal of a run tells which networks are registered: replaying its records leads to their ids and
versions after every operation (`replay_written`). Every operation comes to single attempts to
register a network or to remove an id, with at most a remark on them (`ComesTo`). An attempt at a
built-in id writes one warning and changes nothing, and a resolution writes only of a tie
(`journal_reproduces_registry`).
-/

namespace CoinAddress.Registry

/-- What the journal tells of a registered network. -/
structure Noted where
  /-- The id of the network. -/
  id : String
  /-- The versions that it accepts. -/
  versions : List UInt8
deriving DecidableEq, Repr

/-- The registered networks, as the journal tells of them. -/
def noted (registry : Registry) : List Noted :=
  registry.registered.map fun network => ⟨network.id, network.acceptable⟩

/-- The noted networks after one more record. -/
def Record.replay (noted : List Noted) : Record → List Noted
  | .registered id versions => noted ++ [⟨id, versions⟩]
  | .removed id => noted.eraseP (·.id = id)
  | _ => noted

/-- The noted networks after the records of work as usual, in their order. -/
def replay (noted : List Noted) (journal : List Record) : List Noted :=
  (journal.filter (·.level = .debug)).foldl Record.replay noted

/-- The records of refused requests. -/
def warnings (journal : List Record) : List Record :=
  journal.filter (·.level = .warn)

/-- What an operation writes to the journal. -/
def Operation.written (registry : Registry) : Operation → List Record
  | .perform request => (registry.perform request).journal
  | .registerNetworks document => (Service.registerNetworks registry document).journal
  | .unregisterNetwork id => (Service.unregisterNetwork registry id).journal

/-- What operations write to the journal when they are done one after another. -/
def written (registry : Registry) : List Operation → List Record
  | [] => []
  | operation :: operations =>
    operation.written registry ++ (operation.apply registry).written operations

/-- One network that is to be registered, or one id that is to be removed. -/
inductive Attempt where
  /-- Register the network. -/
  | register (network : Network)
  /-- Remove the first registered network with the id. -/
  | remove (id : String)

/-- The request that makes an attempt. -/
def Attempt.request : Attempt → Request
  | register network => .register network
  | remove id => .unregisterId id

/-- The warning that an attempt gets, if its id is built in. -/
def Attempt.refusal : Attempt → Option Record
  | register network =>
    if Network.isBuiltinId network.id then some (.registrationRefused network.id) else none
  | remove id => if Network.isBuiltinId id then some (.removalRefused id) else none

/-- The attempts of a config. There is none if an entry is invalid. -/
def configAttempts (config : Config) : List Attempt :=
  match config.networks with
  | .ok networks => networks.map .register
  | .error _ => []

/-- The attempts of an operation, in their order. -/
def Operation.attempts : Operation → List Attempt
  | .perform (.register network) => [.register network]
  | .perform (.registerAll batch) => batch.map .register
  | .perform (.registerConfig config) => configAttempts config
  | .perform (.unregister network) => [.remove network.id]
  | .perform (.unregisterId id) => [.remove id]
  | .perform _ => []
  | .registerNetworks document =>
    match Config.ofJson document with
    | .ok config => configAttempts config
    | .error _ => []
  | .unregisterNetwork id => [.remove id]

/-- What may be written that tells of no change and of no refusal. -/
inductive Remarks : List Record → Prop where
  | none :
    Remarks []
  | configRegistered (count : Nat) :
    Remarks [.configRegistered count]
  | shadowed (version : UInt8) (winner : String) (others : List String) :
    Remarks [.shadowed version winner others]

/-- Attempts, made one after another, and remarks on them come to a registry and to records. -/
structure ComesTo (registry : Registry) (attempts : List Attempt) (after : Registry)
    (journal : List Record) : Prop where
  /-- The last attempt leaves the registry. -/
  left : after = registry.after ((attempts.map Attempt.request).map .perform)
  /-- The attempts and the remarks write the records. -/
  written : ∃ remarks, Remarks remarks ∧
    journal = (registry.run (attempts.map Attempt.request)).flatMap (·.journal) ++ remarks

/-- What a resolution writes: a record if networks are shadowed, and else nothing. -/
inductive Tie (registry : Registry) (text : String) : List Record → Prop where
  | failed {error : Address.Error} :
    registry.resolve text = .error error →
    Tie registry text []
  | uncontested {address : Address} {network : Network} :
    Address.parse none text = .ok address →
    registry.findByVersion address.version = [network] →
    Tie registry text []
  | contested {address : Address} {winner other : Network} {others : List Network} :
    Address.parse none text = .ok address →
    registry.findByVersion address.version = winner :: other :: others →
    Tie registry text [.shadowed address.version winner.id (other.id :: others.map (·.id))]

/-- Whether a request only looks into the registry. -/
def Request.isLookup : Request → Bool
  | .findByVersion _ | .findById _ | .networks | .size => true
  | _ => false

section
variable {registry after : Registry} {noted : List Noted} {journal : List Record}
  {attempts : List Attempt}

/-- A journal is replayed part by part. -/
lemma replay_append (noted : List Noted) (first second : List Record) :
    replay noted (first ++ second) = replay (replay noted first) second := by
  rw [replay, List.filter_append, List.foldl_append]
  rfl

/-- The warnings of two parts of a journal come one after the other. -/
lemma warnings_append (first second : List Record) :
    warnings (first ++ second) = warnings first ++ warnings second :=
  List.filter_append ..

/-- A remark tells of no change. -/
lemma Remarks.replay_eq (remarks : Remarks journal) : replay noted journal = noted := by
  cases remarks <;> rfl

/-- A remark is no warning. -/
lemma Remarks.warnings_eq (remarks : Remarks journal) : warnings journal = [] := by
  cases remarks <;> rfl

/-- An attempt that is refused changes nothing and writes one warning. -/
lemma Attempt.perform_of_refusal (registry : Registry) {attempt : Attempt} {record : Record}
    (refused : attempt.refusal = some record) :
    record.level = .warn ∧ (registry.perform attempt.request).registry = registry ∧
      (registry.perform attempt.request).journal = [record] := by
  cases attempt with
  | register network =>
    obtain ⟨builtin, eq⟩ := Option.ite_none_right_eq_some.mp refused
    cases eq
    refine ⟨rfl, register_of_builtin builtin, ?_⟩
    show [registrationRecord network] = _
    rw [registrationRecord, if_pos builtin]
  | remove id =>
    obtain ⟨builtin, eq⟩ := Option.ite_none_right_eq_some.mp refused
    cases eq
    show _ ∧ (registry.unregisterId id).registry = registry ∧ (registry.unregisterId id).journal = _
    rw [unregisterId, if_pos builtin]
    exact ⟨rfl, rfl, rfl⟩

/-- An attempt that is not refused writes no warning. -/
lemma Attempt.warnings_perform_of_none {attempt : Attempt} (allowed : attempt.refusal = none) :
    warnings (registry.perform attempt.request).journal = [] := by
  cases attempt with
  | register network =>
    have foreign : ¬ Network.isBuiltinId network.id = true := by
      simpa [refusal] using allowed
    show warnings [registrationRecord network] = []
    rw [registrationRecord, if_neg foreign]
    rfl
  | remove id =>
    have foreign : ¬ Network.isBuiltinId id = true := by
      simpa [refusal] using allowed
    show warnings (registry.unregisterId id).journal = []
    have removal := removal_unregisterId registry id
    generalize registry.unregisterId id = change at removal ⊢
    cases removal with
    | refused builtin => exact absurd builtin foreign
    | absent => rfl
    | taken => rfl

/-- Replaying what an attempt writes has the effect of the attempt. -/
lemma Attempt.replay_perform (registry : Registry) (attempt : Attempt) :
    replay registry.noted (registry.perform attempt.request).journal
      = (registry.perform attempt.request).registry.noted := by
  cases attempt with
  | register network =>
    show replay registry.noted [registrationRecord network]
      = (registry.register network).registry.noted
    cases builtin : Network.isBuiltinId network.id with
    | true =>
      rw [register_of_builtin builtin, registrationRecord, if_pos builtin]
      rfl
    | false =>
      rw [register_of_foreign builtin, registrationRecord, builtin, if_neg Bool.false_ne_true,
        Registry.noted, Registry.noted, List.map_append]
      rfl
  | remove id =>
    show replay registry.noted (registry.unregisterId id).journal
      = (registry.unregisterId id).registry.noted
    have removal := removal_unregisterId registry id
    generalize registry.unregisterId id = change at removal ⊢
    cases removal with
    | refused => rfl
    | absent => rfl
    | @taken network earlier later _ split others same =>
      have passed : ∀ other ∈ earlier, ¬ decide (other.id = id) = true := by
        simpa using others
      have erased : registry.registered.eraseP (·.id = id) = earlier ++ later := by
        rw [split, List.eraseP_append_right _ passed]
        exact congrArg _ (List.eraseP_cons_of_pos (decide_eq_true same))
      rw [← erased]
      exact List.eraseP_map ..

/-- What attempts come to is the same whether it is done or replayed. -/
lemma replay_attempts (registry : Registry) (attempts : List Attempt) :
    replay registry.noted ((registry.run (attempts.map Attempt.request)).flatMap (·.journal))
      = (registry.after ((attempts.map Attempt.request).map .perform)).noted := by
  induction attempts generalizing registry with
  | nil => rfl
  | cons attempt attempts ih =>
    rw [List.map_cons, run, List.flatMap_cons, replay_append, attempt.replay_perform]
    exact ih (registry.perform attempt.request).registry

/-- What comes to attempts is replayed as these are. -/
lemma ComesTo.replay_eq (comes : ComesTo registry attempts after journal) :
    replay registry.noted journal = after.noted := by
  obtain ⟨remarks, remarks_only, rfl⟩ := comes.written
  rw [replay_append, replay_attempts, remarks_only.replay_eq, comes.left]

/-- The warnings are those of the attempts that are refused, in their order. -/
lemma warnings_attempts (registry : Registry) (attempts : List Attempt) :
    warnings ((registry.run (attempts.map Attempt.request)).flatMap (·.journal))
      = attempts.filterMap Attempt.refusal := by
  induction attempts generalizing registry with
  | nil => rfl
  | cons attempt attempts ih =>
    rw [List.map_cons, run, List.flatMap_cons, warnings_append, ih]
    cases refused : attempt.refusal with
    | some record =>
      obtain ⟨level, _, journal⟩ := Attempt.perform_of_refusal registry refused
      have kept : warnings [record] = [record] := by simp [warnings, level]
      rw [journal, kept, List.filterMap_cons_some refused]
      rfl
    | none =>
      rw [attempt.warnings_perform_of_none refused, List.filterMap_cons_none refused]
      rfl

/-- What comes to attempts gets the warnings of those that are refused. -/
lemma ComesTo.warnings_eq (comes : ComesTo registry attempts after journal) :
    warnings journal = attempts.filterMap Attempt.refusal := by
  obtain ⟨remarks, remarks_only, rfl⟩ := comes.written
  rw [warnings_append, warnings_attempts, remarks_only.warnings_eq, List.append_nil]

/-- What changes nothing and writes remarks alone comes to no attempt. -/
lemma comesTo_nil (remarks : Remarks journal) : ComesTo registry [] registry journal :=
  ⟨rfl, journal, remarks, rfl⟩

/-- An attempt comes to itself, without a remark. -/
lemma comesTo_singleton (registry : Registry) (attempt : Attempt) :
    ComesTo registry [attempt] (registry.perform attempt.request).registry
      (registry.perform attempt.request).journal := by
  refine ⟨rfl, [], .none, ?_⟩
  rw [List.append_nil]
  exact (List.append_nil _).symm

/-- A batch comes to one attempt for each network. -/
lemma comesTo_registerAll (registry : Registry) (batch : List Network) (remarks : Remarks journal) :
    ComesTo registry (batch.map .register) (registry.registerAll batch).registry
      ((registry.registerAll batch).journal ++ journal) := by
  have calls : (batch.map Attempt.register).map Attempt.request = batch.map .register :=
    List.map_map ..
  have sum := addUp_register registry batch
  refine ⟨?_, journal, remarks, ?_⟩
  · rw [calls]
    exact sum.left
  · rw [calls, sum.written]

/-- A config comes to the batch of its networks, with a remark on their number. -/
lemma comesTo_registerConfig (registry : Registry) (config : Config) :
    ComesTo registry (configAttempts config) (registry.registerConfig config).registry
      (registry.registerConfig config).journal := by
  rw [configAttempts, registerConfig]
  cases config.networks with
  | error invalid => exact comesTo_nil .none
  | ok networks => exact comesTo_registerAll registry networks (.configRegistered _)

/-- A resolution writes of a tie and of nothing else. -/
lemma tie_resolving {α : Type} (registry : Registry) (text : String)
    (answer : Except Address.Error Resolution → α) :
    Tie registry text (registry.resolving text answer).journal := by
  cases read : Address.parse none text with
  | error error =>
    rw [resolving, resolveAddress_of_unreadable read]
    exact .failed (resolve_of_unreadable read)
  | ok address =>
    cases found : registry.findByVersion address.version with
    | nil =>
      have search : registry.networks.find? (·.accepts address.version) = none :=
        List.find?_eq_none.mpr (List.filter_eq_nil_iff.mp found)
      have failure := resolveAddress_of_find?_eq_none read search
      have unclaimed : registry.resolve text
          = .error (.malformed (.unknownVersion address.version)) := by
        rw [resolve, failure]
        rfl
      rw [resolving, failure]
      exact .failed unclaimed
    | cons winner others =>
      rw [resolving, resolveAddress_eq_ok read found]
      cases others with
      | nil => exact .uncontested read found
      | cons other others => exact .contested read found

/-- What a resolution writes is no more than a remark. -/
lemma Tie.remarks {text : String} (tie : Tie registry text journal) : Remarks journal := by
  cases tie with
  | failed => exact .none
  | uncontested => exact .none
  | contested => exact .shadowed ..

/-- Every operation comes to its attempts. -/
lemma Operation.comesTo (registry : Registry) (operation : Operation) :
    ComesTo registry operation.attempts (operation.apply registry)
      (operation.written registry) := by
  cases operation with
  | perform request =>
    cases request with
    | register network => exact comesTo_singleton registry (.register network)
    | registerAll batch =>
      have comes := comesTo_registerAll registry batch .none
      rw [List.append_nil] at comes
      exact comes
    | registerConfig config => exact comesTo_registerConfig registry config
    | unregister network => exact comesTo_singleton registry (.remove network.id)
    | unregisterId id => exact comesTo_singleton registry (.remove id)
    | resolve text => exact comesTo_nil (tie_resolving registry text _).remarks
    | resolveAddress text => exact comesTo_nil (tie_resolving registry text _).remarks
    | _ => exact comesTo_nil .none
  | registerNetworks document =>
    rw [attempts, apply, written, Service.registerNetworks]
    cases Config.ofJson document with
    | error error => exact comesTo_nil .none
    | ok config => exact comesTo_registerConfig registry config
  | unregisterNetwork id => exact comesTo_singleton registry (.remove id)

end

/-- Replaying the journal of a run reproduces what the run registers and removes. -/
theorem replay_written (registry : Registry) (operations : List Operation) :
    replay registry.noted (registry.written operations) = (registry.after operations).noted := by
  induction operations generalizing registry with
  | nil => rfl
  | cons operation operations ih =>
    rw [written, replay_append, (operation.comesTo registry).replay_eq]
    exact ih (operation.apply registry)

/-- A run that goes on writes after what it has written. -/
lemma written_append (registry : Registry) (first second : List Operation) :
    registry.written (first ++ second)
      = registry.written first ++ (registry.after first).written second := by
  induction first generalizing registry with
  | nil => rfl
  | cons operation first ih =>
    rw [List.cons_append, written, written, ih, List.append_assoc]
    rfl

section
variable {registry : Registry}

/-- Removing what is not there does nothing. -/
lemma unregisterId_of_absent {id : String} (foreign : id ∉ Network.builtins.map (·.id))
    (absent : ∀ network ∈ registry.registered, network.id ≠ id) :
    registry.unregisterId id = .unchanged registry false := by
  have removal := removal_unregisterId registry id
  generalize registry.unregisterId id = change at removal ⊢
  cases removal with
  | refused builtin => exact absurd (Network.isBuiltinId_iff.mp builtin) foreign
  | absent => rfl
  | @taken network earlier later _ split _ same =>
    have mem : network ∈ registry.registered :=
      split ▸ List.mem_append_right earlier (List.mem_cons_self ..)
    exact absurd same (absent network mem)

/-- A config that is refused does nothing. -/
lemma registerConfig_of_error {config : Config} {invalid : Config.InvalidEntry}
    (refused : (registry.registerConfig config).answer = .error invalid) :
    registry.registerConfig config = .unchanged registry (.error invalid) := by
  rw [registerConfig] at refused ⊢
  cases defined : config.networks with
  | error other =>
    rw [defined] at refused
    rw [← Except.error.inj refused]
  | ok networks =>
    rw [defined] at refused
    cases refused

/-- A document that is refused does nothing. -/
lemma registerNetworks_of_error {document : String} {error : Service.Error}
    (refused : (Service.registerNetworks registry document).answer = .error error) :
    Service.registerNetworks registry document = .unchanged registry (.error error) := by
  have loading := loading_registerNetworks registry document
  generalize Service.registerNetworks registry document = change at refused loading ⊢
  cases loading with
  | unreadable =>
    cases refused
    rfl
  | refused =>
    cases refused
    rfl
  | taken => cases refused

end

/-- After every operation of a run from the initial registry, replaying the journal so far gives the
ids and the versions of the registered networks. Each attempt at a built-in id writes one warning and
changes nothing, and there are no other warnings. Nothing is written when a removal finds no network,
when a config is refused and when a registry is only looked into. A resolution writes one record if
it succeeds and at least two networks accept the version, and else nothing. -/
theorem journal_reproduces_registry :
    (∀ operations earlier : List Operation, earlier <+: operations →
      initial.written earlier <+: initial.written operations ∧
      replay [] (initial.written earlier) = (initial.after earlier).noted) ∧
    (∀ (registry : Registry) (operation : Operation),
      warnings (operation.written registry) = operation.attempts.filterMap Attempt.refusal ∧
      operation.apply registry
        = registry.after ((operation.attempts.map Attempt.request).map .perform)) ∧
    (∀ (registry : Registry) (attempt : Attempt) (record : Record),
      attempt.refusal = some record → record.level = .warn ∧
      (registry.perform attempt.request).registry = registry ∧
      (registry.perform attempt.request).journal = [record]) ∧
    (∀ (registry : Registry) (id : String), id ∉ Network.builtins.map (·.id) →
      (∀ network ∈ registry.registered, network.id ≠ id) →
      registry.unregisterId id = .unchanged registry false) ∧
    (∀ (registry : Registry) (config : Config) (invalid : Config.InvalidEntry),
      (registry.registerConfig config).answer = .error invalid →
      registry.registerConfig config = .unchanged registry (.error invalid)) ∧
    (∀ (registry : Registry) (document : String) (error : Service.Error),
      (Service.registerNetworks registry document).answer = .error error →
      Service.registerNetworks registry document = .unchanged registry (.error error)) ∧
    (∀ (registry : Registry) (request : Request), request.isLookup = true →
      (registry.perform request).registry = registry ∧
      (registry.perform request).journal = []) ∧
    (∀ (registry : Registry) (text : String), ∀ journal ∈
      [(registry.perform (.resolve text)).journal, (registry.perform (.resolveAddress text)).journal,
        (Service.resolve registry text).journal, (Service.resolveNetwork registry text).journal,
        (Service.resolveAddress registry text).journal],
      Tie registry text journal) := by
  refine ⟨?_, ?_, ?_, ?_, ?_, ?_, ?_, ?_⟩
  · rintro _ earlier ⟨later, rfl⟩
    refine ⟨?_, replay_written initial earlier⟩
    rw [written_append]
    exact List.prefix_append ..
  · intro registry operation
    have comes := operation.comesTo registry
    exact ⟨comes.warnings_eq, comes.left⟩
  · intro registry attempt record refused
    exact Attempt.perform_of_refusal registry refused
  · intro registry id foreign absent
    exact unregisterId_of_absent foreign absent
  · intro registry config invalid refused
    exact registerConfig_of_error refused
  · intro registry document error refused
    exact registerNetworks_of_error refused
  · intro registry request lookup
    cases request with
    | findByVersion | findById | networks | size => exact ⟨rfl, rfl⟩
    | _ => cases lookup
  · intro registry text
    simp only [List.forall_mem_cons]
    exact ⟨tie_resolving .., tie_resolving .., tie_resolving .., tie_resolving ..,
      tie_resolving .., nofun⟩

/-- A config with an entry at fault. -/
def halfSound : Config where
  entries := [⟨"new", 1, 2, none⟩, ⟨"bad", 9, 9, some []⟩]

/-- A run with networks of one id and of a built-in one, a config at fault and three removals, two of
them in vain. -/
def refusing : List Operation :=
  [.perform (.registerAll [.ofVersions "dup" 48 5, .ofVersions "org.floj.test" 1 2,
      .ofVersions "dup" 48 7]),
    .perform (.registerConfig halfSound), .perform (.unregisterId "org.floj.test"),
    .unregisterNetwork "dup", .perform (.unregisterId "other")]

/-- After the first removal that succeeds the second network with the id is noted. The refused
removal gets a warning, and what is in vain or only looks gets nothing. -/
theorem journal_reproduces_registry_refusing :
    let registry := initial.after (refusing.take 4)
    refusing.take 4 <+: refusing ∧
      replay [] (initial.written (refusing.take 4)) = [⟨"dup", [48, 7]⟩] ∧
      (registry.perform (.unregisterId "org.floj.test")).journal
        = [.removalRefused "org.floj.test"] ∧
      registry.unregisterId "other" = .unchanged registry false ∧
      registry.registerConfig halfSound = .unchanged registry (.error ⟨"bad", .noVersion⟩) ∧
      (registry.perform .networks).journal = [] := by
  intro registry
  have first : refusing.take 4 <+: refusing := List.take_prefix ..
  obtain ⟨faithful, _, refused, absent, rejected, _, lookup, _⟩ := journal_reproduces_registry
  refine ⟨first, (faithful _ _ first).2.trans (by decide), ?_, ?_, ?_, ?_⟩
  · exact (refused registry (.remove "org.floj.test") _ (by decide)).2.2
  · exact absent registry "other" (by decide) (by decide)
  · exact rejected registry halfSound _ (by decide)
  · exact (lookup registry .networks rfl).2

end CoinAddress.Registry
