import FlowRegistry.Config.Settings
import FlowRegistry.World.State

/-!
# Assembling a registry from its settings

The settings are validated first. A memory backend keeps content in memory; a filesystem backend
keeps it under the storage directory, which does not exist until something is written there, and
which is checked at once (and so created) when the settings ask for it.
-/

namespace FlowRegistry

namespace RegistryConfig

/-- The content store the settings select, starting from a storage directory not yet created. -/
def contentStore (c : RegistryConfig) : ContentStore :=
  match c.persistence with
  | .memory => .memory ⟨[]⟩
  | .filesystem =>
    let d : Disk := ⟨false, []⟩
    .disk (if c.validateStorage then d.validate else d)

/-- A registry with empty stores over the content store the settings select. -/
def assemble (c : RegistryConfig) (clock : Time.Instant) : Outcome World := do
  c.validate
  pure (World.fresh c.contentStore clock)

/-- Whether the storage directory exists once the registry is assembled. -/
def storageCreated (c : RegistryConfig) : Bool :=
  match c.contentStore with
  | .disk d => d.rootExists
  | .memory _ => false

end RegistryConfig

end FlowRegistry
