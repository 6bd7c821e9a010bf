import BgeRouter.Configuration
import BgeRouter.ReverseProxy

/-!
# Application state

`AppState::new` builds the one HTTP client that all requests share.  It sets
the size of the connection pool and, if there is a CA bundle, how upstream
certificates are checked.  Everything else keeps the defaults of `reqwest`.
-/

namespace BgeRouter

structure Certificate where
  der : Bytes

/-- How many redirects a client follows. -/
inductive RedirectPolicy where
  | none
  | limited (max : Nat)
deriving DecidableEq

structure ClientBuilder where
  poolMaxIdlePerHost : Option Nat
  rootCertificates : List Certificate
  acceptInvalidHostnames : Bool
  redirect : RedirectPolicy

namespace ClientBuilder

/-- `reqwest::Client::builder()`, with the documented default of following up
to ten redirects. -/
def new : ClientBuilder where
  poolMaxIdlePerHost := none
  rootCertificates := []
  acceptInvalidHostnames := false
  redirect := .limited 10

def setPoolMaxIdlePerHost (builder : ClientBuilder) (max : Nat) : ClientBuilder :=
  { builder with poolMaxIdlePerHost := some max }

def addRootCertificate (builder : ClientBuilder) (certificate : Certificate) :
    ClientBuilder :=
  { builder with rootCertificates := builder.rootCertificates ++ [certificate] }

def dangerAcceptInvalidHostnames (builder : ClientBuilder) (accept : Bool) :
    ClientBuilder :=
  { builder with acceptInvalidHostnames := accept }

end ClientBuilder

/-- What `AppState::new` uses of the file system and of `reqwest`. -/
structure Platform where
  readFile : String → Option Bytes
  certificateFromPem : Bytes → Option Certificate
  build : ClientBuilder → Option Client

/-- The state that request handlers share, apart from the pool. -/
structure AppState where
  config : Config
  client : Client

namespace AppState

def clientBuilder (platform : Platform) (config : Config) : Except String ClientBuilder :=
  let builder := ClientBuilder.new.setPoolMaxIdlePerHost 32
  match config.upstreamCaBundle with
  | none => .ok builder
  | some caPath =>
      match platform.readFile caPath with
      | none => .error ("reading upstream CA bundle from " ++ caPath)
      | some caPem =>
          match platform.certificateFromPem caPem with
          | none => .error "upstream CA bundle is not valid PEM"
          | some certificate =>
              .ok ((builder.addRootCertificate certificate).dangerAcceptInvalidHostnames true)

def new (platform : Platform) (config : Config) : Except String AppState :=
  match clientBuilder platform config with
  | .error message => .error message
  | .ok builder =>
      match platform.build builder with
      | none => .error "building reqwest::Client"
      | some client => .ok { config := config, client := client }

def retryConfig (state : AppState) : RetryConfig := state.config.retryConfig

def upstreamScheme (state : AppState) : UpstreamScheme := state.config.upstreamScheme

variable {platform : Platform} {config : Config} {builder : ClientBuilder}
  {state : AppState}

/-- No configuration changes how the shared client treats redirects. -/
theorem redirect_of_clientBuilder (built : clientBuilder platform config = .ok builder) :
    builder.redirect = .limited 10 := by
  rw [clientBuilder] at built
  split at built
  · obtain rfl := Except.ok.inj built
    rfl
  · split at built
    · cases built
    · split at built
      · cases built
      · obtain rfl := Except.ok.inj built
        rfl

/-- The client of a started router was built with that redirect policy. -/
theorem client_of_new (started : new platform config = .ok state) :
    ∃ builder, platform.build builder = some state.client ∧
      builder.redirect = .limited 10 := by
  rw [new] at started
  split at started
  · cases started
  · rename_i builder built
    split at started
    · cases started
    · rename_i client accepted
      obtain rfl := Except.ok.inj started
      exact ⟨builder, accepted, redirect_of_clientBuilder built⟩

end AppState

end BgeRouter
