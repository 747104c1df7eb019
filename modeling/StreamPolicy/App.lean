import StreamPolicy.Config
import StreamPolicy.Service

/-!
# Applications

An `App` is a configuration at work: a service of client rules and one of relay mappings.
`Service.load` stores the rules of the system first, and then those of the configuration that can be
stored beside them.
-/

namespace StreamPolicy

namespace Service

variable {α : Type} [RuleKind α]

/-- Stores `r` as a new rule, or nothing if it cannot be stored. -/
def seedIfValid (s : Service α) (r : Rule α) : Service α := (s.seed r).2

/-- Stores the `builtin` rules and then the `configured` ones, which are none of the system whatever
they say. -/
def load (builtin configured : List (Rule α)) : Service α :=
  let seeded := builtin.foldl seedIfValid {}
  ((configured.map fun r => { r with isSystem := false }).foldl seedIfValid seeded).refresh

/-- The stored rules that are none of the system. -/
def userRules (s : Service α) : List (Rule α) := s.store.list.filter (!·.isSystem)

end Service

structure App where
  engine : Engine
  client : Service ClientProfile
  relay : Service RelayTargets

namespace App

def ofConfig (issuer : Issuer) (c : Config) : App × Issuer :=
  let (clientBuiltin, issuer) := Blueprint.issueAll issuer
    (if c.engine.useBuiltinRules then Builtin.clientRules else [])
  let (relayBuiltin, issuer) := Blueprint.issueAll issuer
    (if c.engine.useBuiltinRules then Builtin.relayMappings else [])
  ({ engine := c.engine
     client := Service.load clientBuiltin c.clientRules
     relay := Service.load relayBuiltin c.relayMappings }, issuer)

def analyze (a : App) : List Issue × List Issue :=
  (a.client.analyze a.engine.catchAllPriority, a.relay.analyze a.engine.catchAllPriority)

/-- The document `text` with the rules of `a` that are none of the system. -/
def updatedText? (a : App) (text : String) : Option String :=
  Config.updatedText? text a.client.userRules a.relay.userRules

end App

end StreamPolicy
