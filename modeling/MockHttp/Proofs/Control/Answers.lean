import MockHttp.Proofs.Control.Effect
import MockHttp.Proofs.Wire.RoundTrip

/-! # How the control plane answers

A request is a command, or it is refused for its path, for its method or for its body. The code of
the answer tells these apart, and the ways in which a registration fails. Only a request that is
answered with 200 has an effect.
-/

namespace MockHttp

/-! ## Failed registrations -/

namespace Controller

variable {c : Controller} {w : Surroundings} {r : Registration}

theorem register_eq_invalidPort_iff : (c.register w r).2 = .error .invalidPort ↔ r.port = 0 := by
  rw [result_register]
  by_cases hp : r.port = 0
  · simp [hp]
  · rw [if_neg hp]
    split <;> simp [hp]

theorem register_eq_addressInUse_iff : (∃ port, (c.register w r).2 = .error (.addressInUse port)) ↔
    r.port ≠ 0 ∧ c.registry.isRunning r.port = false ∧ w.isFree r.port = false := by
  rw [result_register]
  by_cases hp : r.port = 0
  · simp [hp]
  · cases c.registry.isRunning r.port <;> cases w.isFree r.port <;> simp [hp]

end Controller

def Response.IsStatus (response : Response) : Prop :=
  ∃ s : Status, Wire.parse Wire.readStatus (Utf8.scan response.body) = .ok s ∧
    (s.status = "ok" ↔ response.status = 200)

namespace Control

def paths : List String := ["/registerRoute", "/resetPort", "/resetAll"]

namespace Endpoint

variable {s : String}

theorem ofPath?_eq_none_iff : ofPath? s = none ↔ s ∉ paths := by
  change _ ↔ s ∉ all.map path
  simp [ofPath?]

theorem exists_ofPath?_eq_some (h : s ∈ paths) : ∃ endpoint, ofPath? s = some endpoint :=
  Option.ne_none_iff_exists'.mp fun hnone => ofPath?_eq_none_iff.mp hnone h

end Endpoint

/-! ## What requests ask for -/

namespace Inquiry

def IsPost (q : Inquiry) (endpoint : Endpoint) : Prop :=
  q.method = "POST" ∧ q.path = endpoint.path

def Carries {α : Type} (q : Inquiry)
    (read : (depth : Nat) → Json.Input → Except Json.Error (α × Json.Input)) (v : α) : Prop :=
  ∃ bytes, q.body = some bytes ∧ Wire.parse read (Utf8.scan bytes) = .ok v

def LacksMessage (q : Inquiry) : Prop :=
  q.IsPost .registerRoute ∧ (∀ r, ¬ q.Carries Wire.readRegistration r) ∨
    q.IsPost .resetPort ∧ ∀ r, ¬ q.Carries Wire.readPortReset r

inductive AsksFor (q : Inquiry) : Command → Prop where
  | register {r : Registration} : q.IsPost .registerRoute →
      q.Carries Wire.readRegistration r → q.AsksFor (.register r)
  | resetPort {r : PortReset} : q.IsPost .resetPort →
      q.Carries Wire.readPortReset r → q.AsksFor (.resetPort r.port)
  | resetAll : q.IsPost .resetAll → q.AsksFor .resetAll

variable {q : Inquiry}

section Message

variable {α : Type} {read : (depth : Nat) → Json.Input → Except Json.Error (α × Json.Input)}

theorem message_eq_ok_iff {v : α} : message read q.body = .ok v ↔ q.Carries read v := by
  unfold message Carries
  cases q.body with
  | none => simp
  | some bytes => cases h : Wire.parse read (Utf8.scan bytes) <;> simp [h]

theorem exists_message_eq_error_iff :
    (∃ refusal, message read q.body = .error refusal) ↔ ∀ v, ¬ q.Carries read v := by
  simp only [← message_eq_ok_iff]
  cases message read q.body <;> simp

theorem status_of_message {refusal : Refusal} (h : message read q.body = .error refusal)
    (place : String) : (refusal.response place).status = 400 := by
  unfold message at h
  split at h
  · cases h
    rfl
  · split at h
    · cases h
    · cases h
      rfl

end Message

theorem isPost_iff {endpoint : Endpoint} :
    q.IsPost endpoint ↔ q.method = "POST" ∧ Endpoint.ofPath? q.path = some endpoint := by
  rw [IsPost, Endpoint.ofPath?_eq_some_iff]

theorem command?_of_unknownPath (h : q.path ∉ paths) :
    q.command? = .error .unknownPath := by
  simp [command?, Endpoint.ofPath?_eq_none_iff.mpr h]

theorem command?_of_wrongMethod (hpath : q.path ∈ paths) (hmethod : q.method ≠ "POST") :
    q.command? = .error .wrongMethod := by
  obtain ⟨endpoint, hendpoint⟩ := Endpoint.exists_ofPath?_eq_some hpath
  simp [command?, hendpoint, hmethod]

theorem command?_of_isPost {endpoint : Endpoint} (h : q.IsPost endpoint) : q.command? =
    match endpoint with
    | .registerRoute => (message Wire.readRegistration q.body).map .register
    | .resetPort => (message Wire.readPortReset q.body).map fun r => .resetPort r.port
    | .resetAll => .ok .resetAll := by
  obtain ⟨hmethod, hpath⟩ := isPost_iff.mp h
  cases endpoint <;> simp [command?, hpath, hmethod]

theorem command?_of_asksFor {cmd : Command} (h : q.AsksFor cmd) : q.command? = .ok cmd := by
  cases h with
  | register hpost hcarries =>
    simp [command?_of_isPost hpost, message_eq_ok_iff.mpr hcarries, Except.map]
  | resetPort hpost hcarries =>
    simp [command?_of_isPost hpost, message_eq_ok_iff.mpr hcarries, Except.map]
  | resetAll hpost => exact command?_of_isPost hpost

theorem command?_of_lacksMessage (h : q.LacksMessage) :
    ∃ refusal, q.command? = .error refusal ∧ ∀ place, (refusal.response place).status = 400 := by
  rcases h with ⟨hpost, hnone⟩ | ⟨hpost, hnone⟩
  all_goals
    obtain ⟨refusal, hrefusal⟩ := exists_message_eq_error_iff.mpr hnone
    refine ⟨refusal, ?_, status_of_message hrefusal⟩
    simp [command?_of_isPost hpost, hrefusal, Except.map]

theorem exists_asksFor_or_lacksMessage {endpoint : Endpoint} (h : q.IsPost endpoint) :
    (∃ cmd, q.AsksFor cmd) ∨ q.LacksMessage := by
  cases endpoint with
  | registerRoute =>
    by_cases hcarries : ∃ r, q.Carries Wire.readRegistration r
    · obtain ⟨r, hr⟩ := hcarries
      exact .inl ⟨_, .register h hr⟩
    · exact .inr (.inl ⟨h, not_exists.mp hcarries⟩)
  | resetPort =>
    by_cases hcarries : ∃ r, q.Carries Wire.readPortReset r
    · obtain ⟨r, hr⟩ := hcarries
      exact .inl ⟨_, .resetPort h hr⟩
    · exact .inr (.inr ⟨h, not_exists.mp hcarries⟩)
  | resetAll => exact .inl ⟨_, .resetAll h⟩

end Inquiry

/-! ## Codes -/

/-- Only a registration can fail. -/
def Command.Succeeds (c : Controller) (w : Surroundings) : Command → Prop
  | register r => (c.register w r).2 = .ok ()
  | resetPort _ => True
  | resetAll => True

/-- The code that answers the request. -/
inductive Inquiry.Earns (q : Inquiry) (c : Controller) (w : Surroundings) : Nat → Prop where
  | unknownPath : q.path ∉ paths → q.Earns c w 404
  | wrongMethod : q.path ∈ paths → q.method ≠ "POST" → q.Earns c w 405
  | lacksMessage : q.LacksMessage → q.Earns c w 400
  | invalidPort {r : Registration} : q.AsksFor (.register r) → r.port = 0 → q.Earns c w 400
  | addressInUse {r : Registration} : q.AsksFor (.register r) → r.port ≠ 0 →
      c.registry.isRunning r.port = false → w.isFree r.port = false → q.Earns c w 500
  | succeeds {cmd : Command} : q.AsksFor cmd → cmd.Succeeds c w → q.Earns c w 200

variable {c : Controller} {w : Surroundings} {q : Inquiry} {cmd : Command} {refusal : Refusal}

theorem response_handle_of_error (h : q.command? = .error refusal) :
    (handle c w q).2 = refusal.response (w.place (q.body.getD [])) := by
  simp [handle, h]

theorem response_handle_of_asksFor (h : q.AsksFor cmd) :
    (handle c w q).2 = (perform c w cmd).2 :=
  response_handle (Inquiry.command?_of_asksFor h)

theorem status_registerResponse (bindError : String) (result : Except RegisterError Unit) :
    (registerResponse bindError result).status =
      match result with
      | .ok () => 200
      | .error .invalidPort => 400
      | .error (.addressInUse _) => 500 := by
  rcases result with ⟨_ | _⟩ | _ <;> rfl

theorem status_of_earns {code : Nat} (h : q.Earns c w code) :
    (handle c w q).2.status = code := by
  cases h with
  | unknownPath hpath =>
    rw [response_handle_of_error (Inquiry.command?_of_unknownPath hpath)]
    rfl
  | wrongMethod hpath hmethod =>
    rw [response_handle_of_error (Inquiry.command?_of_wrongMethod hpath hmethod)]
    rfl
  | lacksMessage hlacks =>
    obtain ⟨refusal, hcommand, hstatus⟩ := Inquiry.command?_of_lacksMessage hlacks
    rw [response_handle_of_error hcommand, hstatus]
  | invalidPort hasks hport =>
    have hresult := Controller.register_eq_invalidPort_iff (c := c) (w := w).mpr hport
    rw [response_handle_of_asksFor hasks, perform, status_registerResponse, hresult]
  | addressInUse hasks hport hrunning hfree =>
    obtain ⟨port, hresult⟩ := Controller.register_eq_addressInUse_iff.mpr ⟨hport, hrunning, hfree⟩
    rw [response_handle_of_asksFor hasks, perform, status_registerResponse, hresult]
  | @succeeds cmd hasks hsucceeds =>
    rw [response_handle_of_asksFor hasks]
    cases cmd with
    | register r =>
      have hresult : (c.register w r).2 = .ok () := hsucceeds
      rw [perform, status_registerResponse, hresult]
    | resetPort port => rfl
    | resetAll => rfl

theorem exists_earns_of_asksFor (h : q.AsksFor cmd) : ∃ code, q.Earns c w code := by
  cases cmd with
  | register r =>
    match hresult : (c.register w r).2 with
    | .ok () => exact ⟨200, .succeeds h hresult⟩
    | .error .invalidPort =>
      exact ⟨400, .invalidPort h (Controller.register_eq_invalidPort_iff.mp hresult)⟩
    | .error (.addressInUse port) =>
      obtain ⟨hport, hrunning, hfree⟩ :=
        Controller.register_eq_addressInUse_iff.mp ⟨port, hresult⟩
      exact ⟨500, .addressInUse h hport hrunning hfree⟩
  | resetPort port => exact ⟨200, .succeeds h trivial⟩
  | resetAll => exact ⟨200, .succeeds h trivial⟩

theorem exists_earns (c : Controller) (w : Surroundings) (q : Inquiry) :
    ∃ code, q.Earns c w code := by
  by_cases hpath : q.path ∈ paths
  · by_cases hmethod : q.method = "POST"
    · obtain ⟨endpoint, hendpoint⟩ := Endpoint.exists_ofPath?_eq_some hpath
      have hpost : q.IsPost endpoint := Inquiry.isPost_iff.mpr ⟨hmethod, hendpoint⟩
      rcases Inquiry.exists_asksFor_or_lacksMessage hpost with ⟨cmd, hasks⟩ | hlacks
      · exact exists_earns_of_asksFor hasks
      · exact ⟨400, .lacksMessage hlacks⟩
    · exact ⟨405, .wrongMethod hpath hmethod⟩
  · exact ⟨404, .unknownPath hpath⟩

/-- Every request earns exactly one code, and gets it. -/
theorem status_handle_iff {code : Nat} :
    (handle c w q).2.status = code ↔ q.Earns c w code := by
  refine ⟨?_, status_of_earns⟩
  rintro rfl
  obtain ⟨code, hcode⟩ := exists_earns c w q
  rwa [status_of_earns hcode]

/-! ## Effects -/

theorem registry_handle_of_error (h : q.command? = .error refusal) :
    (handle c w q).1.registry = c.registry := by
  rw [registry_handle, h]

theorem registry_handle_of_asksFor (h : q.AsksFor cmd) :
    (handle c w q).1.registry = cmd.apply c w := by
  rw [registry_handle, Inquiry.command?_of_asksFor h]

theorem registry_handle_of_status_ne (h : (handle c w q).2.status ≠ 200) :
    (handle c w q).1.registry = c.registry := by
  obtain ⟨code, hcode⟩ := exists_earns c w q
  cases hcode with
  | unknownPath hpath => exact registry_handle_of_error (Inquiry.command?_of_unknownPath hpath)
  | wrongMethod hpath hmethod =>
    exact registry_handle_of_error (Inquiry.command?_of_wrongMethod hpath hmethod)
  | lacksMessage hlacks =>
    obtain ⟨refusal, hcommand, -⟩ := Inquiry.command?_of_lacksMessage hlacks
    exact registry_handle_of_error hcommand
  | invalidPort hasks hport =>
    rw [registry_handle_of_asksFor hasks]
    exact Controller.registry_register_of_error (Controller.register_eq_invalidPort_iff.mpr hport)
  | addressInUse hasks hport hrunning hfree =>
    obtain ⟨port, hresult⟩ := Controller.register_eq_addressInUse_iff.mpr ⟨hport, hrunning, hfree⟩
    rw [registry_handle_of_asksFor hasks]
    exact Controller.registry_register_of_error hresult
  | succeeds hasks hsucceeds => exact (h (status_of_earns (.succeeds hasks hsucceeds))).elim

/-! ## Bodies -/

theorem isStatus_statusResponse {code : Nat} {s : Status} (h : s.status = "ok" ↔ code = 200) :
    (statusResponse code s).IsStatus :=
  ⟨s, Wire.parse_print (Wire.readStatus_print _ s), h⟩

theorem isStatus_ok (message : String) : (statusResponse 200 (.ok message)).IsStatus :=
  isStatus_statusResponse (by simp [Status.ok])

theorem isStatus_error (code : Nat) (h : code ≠ 200) (message : String) :
    (statusResponse code (.error message)).IsStatus :=
  isStatus_statusResponse (by simp [Status.error, h])

theorem isStatus_refusal (h : refusal ≠ .unknownPath) (place : String) :
    (refusal.response place).IsStatus := by
  cases refusal with
  | unknownPath => exact (h rfl).elim
  | wrongMethod => exact isStatus_error 405 (by decide) _
  | unreadableBody => exact isStatus_error 400 (by decide) _
  | invalidBody e => exact isStatus_error 400 (by decide) _

theorem isStatus_registerResponse (bindError : String) (result : Except RegisterError Unit) :
    (registerResponse bindError result).IsStatus := by
  rcases result with ⟨_ | port⟩ | u
  · exact isStatus_error 400 (by decide) _
  · exact isStatus_error 500 (by decide) _
  · exact isStatus_ok _

theorem isStatus_perform (c : Controller) (w : Surroundings) (cmd : Command) :
    (perform c w cmd).2.IsStatus := by
  cases cmd with
  | register r => exact isStatus_registerResponse _ _
  | resetPort port => exact isStatus_ok _
  | resetAll => exact isStatus_ok _

theorem isStatus_handle (h : (handle c w q).2.status ≠ 404) : (handle c w q).2.IsStatus := by
  cases hcommand : q.command? with
  | ok cmd =>
    rw [response_handle hcommand]
    exact isStatus_perform c w cmd
  | error refusal =>
    have hresponse := response_handle_of_error (c := c) (w := w) hcommand
    rw [hresponse] at h ⊢
    refine isStatus_refusal ?_ _
    rintro rfl
    exact h rfl

theorem body_of_unknownPath (h : q.path ∉ paths) :
    (handle c w q).2.body = [] := by
  rw [response_handle_of_error (Inquiry.command?_of_unknownPath h)]
  rfl

/-! ## What a code tells -/

namespace Inquiry

theorem earns_404_iff :
    q.Earns c w 404 ↔ q.path ∉ paths := by
  constructor
  · intro h
    cases h with
    | unknownPath hpath => exact hpath
  · exact .unknownPath

theorem earns_405_iff : q.Earns c w 405 ↔
    q.path ∈ paths ∧ q.method ≠ "POST" := by
  constructor
  · intro h
    cases h with
    | wrongMethod hpath hmethod => exact ⟨hpath, hmethod⟩
  · rintro ⟨hpath, hmethod⟩
    exact .wrongMethod hpath hmethod

theorem earns_400_iff : q.Earns c w 400 ↔
    (q.IsPost .registerRoute ∧ ∀ r, ¬ q.Carries Wire.readRegistration r) ∨
    (q.IsPost .resetPort ∧ ∀ r, ¬ q.Carries Wire.readPortReset r) ∨
    (q.IsPost .registerRoute ∧ ∃ r, q.Carries Wire.readRegistration r ∧ r.port = 0) := by
  constructor
  · intro h
    cases h with
    | lacksMessage hlacks => exact hlacks.imp_right .inl
    | invalidPort hasks hport =>
      cases hasks with
      | register hpost hcarries => exact .inr (.inr ⟨hpost, _, hcarries, hport⟩)
  · rintro (hlacks | hlacks | ⟨hpost, r, hcarries, hport⟩)
    · exact .lacksMessage (.inl hlacks)
    · exact .lacksMessage (.inr hlacks)
    · exact .invalidPort (.register hpost hcarries) hport

theorem earns_500_iff : q.Earns c w 500 ↔
    q.IsPost .registerRoute ∧ ∃ r, q.Carries Wire.readRegistration r ∧ r.port ≠ 0 ∧
      c.registry.isRunning r.port = false ∧ w.isFree r.port = false := by
  constructor
  · intro h
    cases h with
    | addressInUse hasks hport hrunning hfree =>
      cases hasks with
      | register hpost hcarries => exact ⟨hpost, _, hcarries, hport, hrunning, hfree⟩
  · rintro ⟨hpost, r, hcarries, hport, hrunning, hfree⟩
    exact .addressInUse (.register hpost hcarries) hport hrunning hfree

end Inquiry

theorem registry_handle_of_earns_200 (h : q.Earns c w 200) :
    (q.IsPost .registerRoute ∧ ∃ r, q.Carries Wire.readRegistration r ∧
      (c.register w r).2 = .ok () ∧ (handle c w q).1.registry = (c.register w r).1.registry) ∨
    (q.IsPost .resetPort ∧ ∃ r, q.Carries Wire.readPortReset r ∧
      (handle c w q).1.registry = (c.resetPort w r.port).registry) ∨
    (q.IsPost .resetAll ∧ (handle c w q).1.registry = c.resetAll.1.registry) := by
  cases h with
  | succeeds hasks hsucceeds =>
    have hregistry := registry_handle_of_asksFor (c := c) (w := w) hasks
    cases hasks with
    | register hpost hcarries => exact .inl ⟨hpost, _, hcarries, hsucceeds, hregistry⟩
    | resetPort hpost hcarries => exact .inr (.inl ⟨hpost, _, hcarries, hregistry⟩)
    | resetAll hpost => exact .inr (.inr ⟨hpost, hregistry⟩)

/-- A request that is not answered with 200 has no effect. One that is was posted to a known path
and does what the controller does for the command in its body. The code says why a request is
refused, and the body of every answer to a known path is a status. -/
theorem handle_classifies (c : Controller) (w : Surroundings) (q : Inquiry) :
    let registry := (handle c w q).1.registry
    let response := (handle c w q).2
    (response.status ≠ 200 → registry = c.registry) ∧
    (response.status = 200 →
      (q.IsPost .registerRoute ∧ ∃ r, q.Carries Wire.readRegistration r ∧
        (c.register w r).2 = .ok () ∧ registry = (c.register w r).1.registry) ∨
      (q.IsPost .resetPort ∧ ∃ r, q.Carries Wire.readPortReset r ∧
        registry = (c.resetPort w r.port).registry) ∨
      (q.IsPost .resetAll ∧ registry = c.resetAll.1.registry)) ∧
    (response.status = 404 ↔ q.path ∉ paths) ∧
    (response.status = 404 → response.body = []) ∧
    (response.status = 405 ↔ q.path ∈ paths ∧ q.method ≠ "POST") ∧
    (response.status = 400 ↔
      (q.IsPost .registerRoute ∧ ∀ r, ¬ q.Carries Wire.readRegistration r) ∨
      (q.IsPost .resetPort ∧ ∀ r, ¬ q.Carries Wire.readPortReset r) ∨
      (q.IsPost .registerRoute ∧ ∃ r, q.Carries Wire.readRegistration r ∧ r.port = 0)) ∧
    (response.status = 500 ↔
      q.IsPost .registerRoute ∧ ∃ r, q.Carries Wire.readRegistration r ∧ r.port ≠ 0 ∧
        c.registry.isRunning r.port = false ∧ w.isFree r.port = false) ∧
    (response.status ≠ 404 → ∃ s : Status,
      Wire.parse Wire.readStatus (Utf8.scan response.body) = .ok s ∧
      (s.status = "ok" ↔ response.status = 200)) := by
  intro registry response
  have hcode {code : Nat} : response.status = code ↔ q.Earns c w code := status_handle_iff
  exact ⟨registry_handle_of_status_ne, fun h => registry_handle_of_earns_200 (hcode.mp h),
    hcode.trans Inquiry.earns_404_iff,
    fun h => body_of_unknownPath (Inquiry.earns_404_iff.mp (hcode.mp h)),
    hcode.trans Inquiry.earns_405_iff, hcode.trans Inquiry.earns_400_iff,
    hcode.trans Inquiry.earns_500_iff, isStatus_handle⟩

/-- A port that is taken, and a body that comes back within a message. -/
theorem handle_classifies_taken_port :
    let w : Surroundings := { isFree := fun _ => false }
    let r : Registration := ⟨9001, "GET", "/hello", []⟩
    let q : Inquiry := ⟨"POST", "/registerRoute", some (Utf8.encode r.print)⟩
    let text : Inquiry := ⟨"POST", "/resetPort", some (Text.bytes "\"\\\"\"")⟩
    (handle {} w q).2.status = 500 ∧ (handle {} w q).1.registry = {} ∧
      (handle {} w text).2.status = 400 ∧ ∃ s : Status,
        Wire.parse Wire.readStatus (Utf8.scan (handle {} w text).2.body) = .ok s ∧
        s.status ≠ "ok" := by
  intro w r q text
  have hplain : r.IsPlain 123 := fun e he => (List.not_mem_nil he).elim
  have hcarries : q.Carries Wire.readRegistration r :=
    ⟨_, rfl, Wire.parse_print (Wire.readRegistration_print hplain)⟩
  have hlacks : ∀ r, ¬ text.Carries Wire.readPortReset r := by
    rintro r ⟨bytes, hbytes, hparse⟩
    cases hbytes
    have herror : Wire.parse Wire.readPortReset (Utf8.scan (Text.bytes "\"\\\"\"")) =
        .error (.wrongType (.string "\"") "struct ResetPort") := by rfl
    rw [herror] at hparse
    cases hparse
  obtain ⟨hkeeps, -, -, -, -, -, h500, -⟩ := handle_classifies {} w q
  obtain ⟨-, -, -, -, -, h400, -, hbody⟩ := handle_classifies {} w text
  have htaken : (handle {} w q).2.status = 500 :=
    h500.mpr ⟨⟨rfl, rfl⟩, r, hcarries, by decide, rfl, rfl⟩
  have hrefused : (handle {} w text).2.status = 400 := h400.mpr (.inr (.inl ⟨⟨rfl, rfl⟩, hlacks⟩))
  obtain ⟨s, hs, hok⟩ := hbody (by simp [hrefused])
  refine ⟨htaken, hkeeps (by simp [htaken]), hrefused, s, hs, ?_⟩
  simp [hok, hrefused]

end Control

end MockHttp
