import AssetBundle.Proofs.Keyed
import AssetBundle.Proofs.Number.Integer
import AssetBundle.Proofs.Service.Launching

/-!
# AssetBundle.Proofs.Launch.Address

Where a server is launched. An address has digits behind its last colon and a host in front of it
(`Address.parse?_eq_some_iff`); anything else is refused before the target is looked at. The digits
are read as a number only after the target was settled, and not all digits are decimal: so a port
that passes as one can still fail when it is read, with the target launched (`launch_address`). A
server that is started gets the address whatever the options say (`Server.lookup_settings`).
-/

namespace AssetBundle

namespace Address

/-- Whether a text is made of a host and the digits of a port, with the last colon between them. -/
structure Joins (t host port : Text) : Prop where
  parts : t = host ++ colon :: port
  lastColon : colon ∉ port
  hasHost : host ≠ []
  hasPort : port ≠ []
  digits : ∀ c ∈ port, c.isDigit = true

variable {t host port : Text}

theorem parse?_eq_some_iff : parse? t = some ⟨host, port⟩ ↔ Joins t host port := by
  rw [parse?]
  constructor
  · intro h
    split at h
    · cases h
    · next front back hcut =>
      obtain ⟨hparts, hlast⟩ := Sequence.cutAtLast?_eq_some_iff.1 hcut
      split at h
      · cases h
      · next hshape =>
        cases h
        simp only [Bool.or_eq_true, List.isEmpty_iff, Bool.not_eq_true', not_or,
          Bool.not_eq_false, List.all_eq_true] at hshape
        exact ⟨hparts, hlast, hshape.1.1, hshape.1.2, hshape.2⟩
  · intro h
    have hcut := Sequence.cutAtLast?_eq_some_iff.2 ⟨h.parts, h.lastColon⟩
    have hdigits : port.all CodePoint.isDigit = true := List.all_eq_true.2 h.digits
    rw [hcut]
    simp [h.hasHost, h.hasPort, hdigits]

theorem ofValue_of_joins (h : Joins t host port) : ofValue (.text t) = .ok ⟨host, port⟩ := by
  rw [ofValue, Value.written, parse?_eq_some_iff.2 h]
  rfl

theorem ofValue_of_not_joins (h : ∀ host port, ¬ Joins t host port) :
    ofValue (.text t) = .error (.bindAddress (.text t)) := by
  have hparse : parse? t = none :=
    Option.eq_none_iff_forall_ne_some.2 fun a ha => h a.host a.port (parse?_eq_some_iff.1 ha)
  rw [ofValue, Value.written, hparse]
  rfl

end Address

namespace Server

variable (own : Server) (host : Text) (port : Int) (options : List (Text × Value))

/-- The options of the address are those that hold, whatever else is given. -/
theorem lookup_settings {entry : Text × Value} (h : entry ∈ own.addressed host port) :
    (own.settings host port options).lookup entry.1 = some entry.2 := by
  have halone : (own.addressed host port).filter (fun pair => pair.1 = entry.1) = [entry] := by
    cases own with
    | uvicorn =>
      rcases List.mem_pair.1 h with rfl | rfl <;> rfl
    | hypercorn =>
      rcases List.mem_singleton.1 h with rfl
      rfl
    | daphne =>
      rcases List.mem_pair.1 h with rfl | rfl <;> rfl
  rw [settings, Keyed.lookup_ofList, List.filter_append, halone, List.getLast?_concat]
  rfl

theorem nodup_settings : ((own.settings host port options).map Prod.fst).Nodup :=
  Keyed.nodup_keys_ofList _

end Server

namespace Service

/-- The value that gives the address: the argument, or else an option, or else the standard one. -/
def boundTo (bind : Option Value) (options : List (Text × Value)) : Value :=
  (bind.orElse fun _ => options.lookup bindOption).getD Address.standard

variable {name : Text} {own : Server} {bind : Option Value} {options : List (Text × Value)}
  {t host port : Text} {s s' : Service} {target : Target} {address : Address}

theorem launch_eq (hname : Server.ofName? name = some own)
    (hfree : ∀ entry ∈ options, isTaken bind entry.1 = false) (s : Service) (target : Target) :
    s.launch target (.text name) bind options =
      match Address.ofValue (boundTo bind options) with
      | .error e => (.error e, s)
      | .ok address => s.start target own address (Keyed.drop bindOption options) := by
  have hnone : (options.find? fun entry => isTaken bind entry.1) = none :=
    List.find?_eq_none.2 fun entry hentry => by simp [hfree entry hentry]
  rw [launch, hnone, Server.ofValue, hname]
  rfl

theorem start_of_numeral {app : Text} (happ : s.appPath target = (.ok app, s'))
    (hport : address.port ≠ []) (hnumeral : Integer.IsNumeral address.port) :
    let settings := own.settings address.numericHost (Integer.magnitude address.port) options
    s.start target own address options =
      (if settings.all fun entry => entry.2.isWritable then
        .ok ⟨own, settings.map ServerOptions.argument ++ [app]⟩
      else .error .integerTooLong, s') := by
  intro settings
  rw [start, happ]
  dsimp only
  rw [Address.portNumber, Integer.readOrFail_of_isNumeral hport hnumeral]
  dsimp only
  rw [Server.arguments, ServerOptions.toArguments]
  cases (own.settings address.numericHost (Integer.magnitude address.port) options).all
    fun entry => entry.2.isWritable <;> rfl

/-- A text that is no address is refused, and nothing is changed. For an address the target is
settled first, and stays so whatever follows. A port that is a numeral is then the number on which
the server is started, on the given host and with the target's path as its last argument. The digits
of any other port cannot be read, and no server is started although the target was settled. -/
theorem launch_address (hname : Server.ofName? name = some own)
    (hfree : ∀ entry ∈ options, isTaken bind entry.1 = false)
    (hbind : boundTo bind options = .text t) (s : Service) (target : Target) :
    let launched := s.launch target (.text name) bind options
    ((∀ host port, ¬ Address.Joins t host port) → ∃ e, launched = (.error e, s) ∧
      e.kind = "ValueError" ∧
      e.message = "embedstatics.run() bind must be 'host:port', not " ++ Quoted.text t) ∧
    ∀ host port, Address.Joins t host port →
      (∀ e s', s.appPath target = (.error e, s') → launched = (.error e, s)) ∧
      ∀ app s', s.appPath target = (.ok app, s') →
        (Integer.IsNumeral port →
          let numericHost : Text := if host = "localhost" then "127.0.0.1" else host
          let n : Int := Integer.magnitude port
          let settings := own.settings numericHost n (Keyed.drop bindOption options)
          Integer.readOrFail port = .ok n ∧
            (∀ entry ∈ own.addressed numericHost n,
              settings.lookup entry.1 = some entry.2) ∧
            (settings.map Prod.fst).Nodup ∧
            launched = (if settings.all fun entry => entry.2.isWritable then
                .ok ⟨own, settings.map ServerOptions.argument ++ [app]⟩
              else .error .integerTooLong, s')) ∧
        (¬ Integer.IsNumeral port → ∃ why,
          Integer.readOrFail port = .error (.unreadableInteger why port) ∧
            launched = (.error (.unreadableInteger why port), s')) := by
  intro launched
  have hlaunched : launched =
      match Address.ofValue (.text t) with
      | .error e => (.error e, s)
      | .ok address => s.start target own address (Keyed.drop bindOption options) := by
    rw [← hbind]
    exact launch_eq hname hfree s target
  refine ⟨fun hnone => ?_, fun host port hjoins => ?_⟩
  · rw [hlaunched, Address.ofValue_of_not_joins hnone]
    exact ⟨_, rfl, rfl, rfl⟩
  rw [Address.ofValue_of_joins hjoins] at hlaunched
  refine ⟨fun e s' happ => ?_, fun app s' happ => ⟨fun hnumeral => ?_, fun hnot => ?_⟩⟩
  · obtain rfl := appPath_error happ
    rw [hlaunched]
    dsimp only
    rw [start, happ]
  · refine ⟨Integer.readOrFail_of_isNumeral hjoins.hasPort hnumeral,
      fun entry => Server.lookup_settings _ _ _ _, Server.nodup_settings _ _ _ _, ?_⟩
    rw [hlaunched]
    exact start_of_numeral happ hjoins.hasPort hnumeral
  · obtain ⟨why, hread⟩ :=
      Integer.readOrFail_of_not_isNumeral hjoins.hasPort hjoins.digits hnot
    refine ⟨why, hread, ?_⟩
    rw [hlaunched]
    dsimp only
    rw [start, happ]
    dsimp only
    rw [Address.portNumber, hread]

/-- A superscript passes as a digit of a port and cannot be read, and the bundle stays launched. -/
theorem launch_address_superscript :
    let s := initial "" bundled
    let launched := s.launch (.value (.text "out.py")) (.text "Uvicorn")
      (some (.text "localhost:²")) []
    (∃ why, launched.1 = .error (.unreadableInteger why "²")) ∧
      launched.2.registry.active = Table.ofRecords [onePage] ∧
      launched.2.bundle = some ("out.py" : Text) := by
  intro s launched
  have hjoins : Address.Joins "localhost:²" "localhost" "²" := Address.parse?_eq_some_iff.1 rfl
  have hnot : ¬ Integer.IsNumeral "²" := fun h => absurd (h.decimal 0xB2 (by decide)) (by decide)
  have hname : Server.ofName? "Uvicorn" = some .uvicorn := by decide
  have hbound : boundTo (some (.text "localhost:²")) [] = .text "localhost:²" := rfl
  obtain ⟨_, haddress⟩ :=
    launch_address hname (fun _ h => absurd h List.not_mem_nil) hbound s (.value (.text "out.py"))
  obtain ⟨why, _, hlaunched⟩ :=
    ((haddress _ _ hjoins).2 _ _ (appPath_bundled (s := s) rfl)).2 hnot
  rw [show launched = _ from hlaunched]
  exact ⟨⟨why, rfl⟩, rfl, rfl⟩

end Service

end AssetBundle
