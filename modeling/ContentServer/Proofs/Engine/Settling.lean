import ContentServer.Proofs.Path.Canonical
import ContentServer.Proofs.Redirect.OnSite

namespace ContentServer

namespace RequestPath

variable {extension : String} {path : RequestPath}

end RequestPath

namespace Engine

variable (engine : Engine) {σ : Type} (answer : (q : Query) → σ → Except StoreError q.Answer × σ)
  (s : σ)

variable {engine answer s} {request : PageRequest}

section Settle

variable (hext : Config.isExtension engine.settings.extension) (hquery : request.query = none)

include hext hquery

end Settle

variable (answer s request)

end Engine

namespace Settling

open Visibility (engine guide)

def files : Record :=
  { guide with key := "/*", canonical := .requireNeither }

def pages : Store :=
  .memory ((MemoryStore.putRecord {} files).putRecord { guide with id := 3, key := "/a" })

def request : PageRequest :=
  { path := "/a.html.html/" }

end Settling

end ContentServer
