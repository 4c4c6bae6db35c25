import TrafficMap.Topology.Basic

/-!
# Placement Registry

Where services stand and in which layer, when their endpoint does not say. A registry holds one
placement for an id. Fifteen services of the platform have a built-in placement; a configuration
adds placements and replaces built-in ones, and of two placements for one id the later wins.
-/

namespace TrafficMap

structure Placement (κ : Type) where
  position : Position κ
  layer : Layer
deriving Repr, BEq, DecidableEq

/-- A placement as a configuration gives it. -/
structure ServicePlacement (κ : Type) where
  id : String
  x : κ
  y : κ
  layer : Layer
deriving Repr, BEq, DecidableEq

/-- The placement that a configured service asks for. -/
def ServicePlacement.placement {κ : Type} (s : ServicePlacement κ) : Placement κ :=
  ⟨⟨s.x, s.y⟩, s.layer⟩

/-! ## Registries -/

/-- Placements of services, one for an id. So look-up does not depend on the order of the
entries. -/
structure Registry (κ : Type) where
  entries : List (String × Placement κ)
  /-- No id has two placements. -/
  nodup : (entries.map (·.1)).Nodup

namespace Registry

variable {κ : Type}

def empty : Registry κ := ⟨[], List.nodup_nil⟩

instance : Inhabited (Registry κ) := ⟨empty⟩

/-- The placement of a service. -/
def get? (r : Registry κ) (id : String) : Option (Placement κ) :=
  r.entries.lookup id

def size (r : Registry κ) : Nat := r.entries.length

/-- The entries without the one for `id`. -/
def without (entries : List (String × Placement κ)) (id : String) : List (String × Placement κ) :=
  entries.filter (·.1 != id)

/-- Sets the placement of one service. -/
def insert (r : Registry κ) (id : String) (p : Placement κ) : Registry κ where
  -- An earlier entry for the id goes.
  entries := (id, p) :: without r.entries id
  nodup := by
    rw [List.map_cons, List.nodup_cons]
    constructor
    · simp [without]
    · exact r.nodup.sublist ((List.filter_sublist).map _)

def insertAll (r : Registry κ) (services : List (ServicePlacement κ)) : Registry κ :=
  services.foldl (fun r s => r.insert s.id s.placement) r

/-! ## The built-in registry -/

variable [Scalar κ]

/-- Placements of the platform's own services. -/
def builtinServices : List (ServicePlacement κ) :=
  [⟨"web-app", 250.0, 70.0, .frontend⟩,
   ⟨"admin-console", 550.0, 70.0, .frontend⟩,
   ⟨"api-gateway", 300.0, 170.0, .gateway⟩,
   ⟨"auth-gateway", 500.0, 170.0, .gateway⟩,
   ⟨"config-service", 150.0, 270.0, .platform⟩,
   ⟨"observability-service", 400.0, 270.0, .platform⟩,
   ⟨"scheduler", 650.0, 270.0, .platform⟩,
   ⟨"conversation-service", 120.0, 370.0, .business⟩,
   ⟨"kpi-service", 320.0, 370.0, .business⟩,
   ⟨"entity-resolution", 500.0, 370.0, .business⟩,
   ⟨"notification-service", 680.0, 370.0, .business⟩,
   ⟨"postgres", 150.0, 470.0, .infrastructure⟩,
   ⟨"redis", 320.0, 470.0, .infrastructure⟩,
   ⟨"kafka", 500.0, 470.0, .infrastructure⟩,
   ⟨"elasticsearch", 670.0, 470.0, .infrastructure⟩]

/-- The registry of the platform's own services. -/
def builtin : Registry κ := empty.insertAll builtinServices

/-- The registry that a configuration describes: its placements, in order, on top of the built-in
ones or in their place. -/
def ofServices (services : List (ServicePlacement κ)) (replaceDefaults : Bool) : Registry κ :=
  (if replaceDefaults then empty else builtin).insertAll services

end Registry

end TrafficMap
