import PriorityAgents.Config
import PriorityAgents.Event.Name
import PriorityAgents.Identity
import PriorityAgents.Json.Codec

/-!
The JSON forms of identities, ticks, clocks, event names and settings. An identity and a tick are
written as the number they hold and an event name as its text. Every setting may be left out.
-/

set_option autoImplicit false

namespace PriorityAgents

instance : JsonEncode AgentId := ⟨fun agent => encode agent.index⟩

instance : JsonDecode AgentId := ⟨fun json => (json.naturalBelow? (2 ^ 32)).bind AgentId.ofIndex?⟩

instance : JsonEncode TimerHandle := ⟨fun handle => encode handle.index⟩

instance : JsonDecode TimerHandle :=
  ⟨fun json => (json.naturalBelow? (2 ^ 32)).bind TimerHandle.ofIndex?⟩

instance : JsonEncode Tick := ⟨fun tick => encode tick.index⟩

instance : JsonDecode Tick := ⟨fun json => (decode? json).map Tick.ofWord⟩

instance : JsonEncode EventName := ⟨fun name => encode name.text⟩

instance : JsonDecode EventName := ⟨fun json => (decode? json).map EventName.mk⟩

instance : JsonEncode Clock where
  encode clock :=
    .ofMembers [("tick_millis", encode clock.tickMillis), ("current_tick", encode clock.now)]

instance : JsonEncode Config where
  encode config :=
    .ofMembers [("tick_millis", encode config.tickMillis),
      ("total_ticks", encode config.totalTicks), ("seed", encode config.seed),
      ("reconsider_now_millis", encode config.reconsiderNowMillis)]

namespace Config

def fieldNames : List String := ["tick_millis", "total_ticks", "seed", "reconsider_now_millis"]

def ofJson? (json : Json) : Option Config :=
  match json.fields? fieldNames with
  | some [tickMillis, totalTicks, seed, reconsiderNowMillis] => do
      let tickMillis ← Json.optionalField standard.tickMillis tickMillis
      let totalTicks ← Json.optionalField standard.totalTicks totalTicks
      let seed ← Json.optionalField standard.seed seed
      let reconsiderNowMillis ←
        Json.optionalField standard.reconsiderNowMillis reconsiderNowMillis
      pure { tickMillis, totalTicks, seed, reconsiderNowMillis }
  | _ => none

end Config

instance : JsonDecode Config := ⟨Config.ofJson?⟩

end PriorityAgents
