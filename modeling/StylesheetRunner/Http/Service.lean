import StylesheetRunner.ErrorReport
import StylesheetRunner.Http.Server

/-!
Starting the service: it needs the port of its settings.
-/

namespace StylesheetRunner.Http

structure Service where
  port : UInt16
  settings : Settings
  state : State

def Service.start (configuration : Configuration) (runner : Runner) (files : FileTree)
    (refusal? : UInt16 → Option IoError) : Except ErrorReport Service :=
  match refusal? configuration.port with
  | some cause =>
    let address := s!"0.0.0.0:{configuration.port.toNat}"
    .error (.because s!"failed to bind listener {address}" cause.message)
  | none =>
    .ok ⟨configuration.port, .ofConfiguration configuration runner,
      .ofConfiguration configuration files⟩

def Service.answer (service : Service) (moment : Moment) (request : Request) :
    Response × Service :=
  let reply := Http.answer service.settings moment request service.state
  (reply.response, { service with state := reply.state })

end StylesheetRunner.Http
