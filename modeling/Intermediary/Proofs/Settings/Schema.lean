import Intermediary.Settings.Reader

/-!
# The schema of settings

The settings stand in a fixed order: the areas one after another, and the
settings of an area in the order in which an array gives their values.
-/

namespace Intermediary

namespace Section

/-- Two sections that give the same values to the settings of so many names. -/
def Alike (names : List String) (part other : Section) : Prop :=
  ∀ place name, names[place]? = some name -> part.find? place name = other.find? place name

private theorem lookup_zip {α : Type} {names : List String} (hnodup : names.Nodup) {place : Nat}
    {name : String} (h : names[place]? = some name) (items : List α) :
    (names.zip items).lookup name = items[place]? := by
  induction names generalizing place items with
  | nil => cases h
  | cons first names ih =>
      obtain ⟨hfirst, hnodup⟩ := List.nodup_cons.1 hnodup
      cases items with
      | nil => simp
      | cons item items =>
          cases place with
          | zero =>
              cases h
              simp
          | succ place =>
              rw [List.getElem?_cons_succ] at h
              have hne : name ≠ first := fun heq => hfirst (heq ▸ List.mem_of_getElem? h)
              rw [List.zip_cons_cons, List.lookup_cons, beq_false_of_ne hne,
                List.getElem?_cons_succ]
              exact ih hnodup h items

/-- Values in an array are those of the names at the same places. -/
theorem alike_listed {names : List String} (hnodup : names.Nodup)
    (items : List Toml.Value) : Alike names (.listed items) (.named (names.zip items)) := by
  intro place name h
  exact (lookup_zip hnodup h items).symm

end Section

namespace Settings

/-- An area of the settings, which is a section of a document. -/
inductive Area where
  | listener
  | scheduler
  | cache
  | tunnel
  | timeouts
  | limits
  | blocklist
  | parent
  | report
  | admin
  deriving DecidableEq, Repr

namespace Area

def all : List Area :=
  [.listener, .scheduler, .cache, .tunnel, .timeouts, .limits, .blocklist, .parent,
    .report, .admin]

def name : Area -> String
  | .listener => "listener"
  | .scheduler => "scheduler"
  | .cache => "cache"
  | .tunnel => "tunnel"
  | .timeouts => "timeouts"
  | .limits => "limits"
  | .blocklist => "blocklist"
  | .parent => "upstream"
  | .report => "observability"
  | .admin => "admin"

def fields : Area -> List String
  | .listener => ["bind_address"]
  | .scheduler => ["workers", "queue_depth"]
  | .cache => ["enabled", "stripes", "max_age_secs"]
  | .tunnel => ["idle_timeout_secs", "buffer_size"]
  | .timeouts => ["connect_secs", "read_secs", "write_secs"]
  | .limits => ["max_line_bytes", "max_headers", "max_payload_bytes"]
  | .blocklist => ["path"]
  | .parent => ["host", "port"]
  | .report => ["log_level", "metrics_enabled", "metrics_address"]
  | .admin => ["enabled", "api_key", "bind_address"]

/-- The name of a setting with that of its area before it. -/
def path (area : Area) (field : String) : String :=
  area.name ++ "." ++ field

def paths (area : Area) : List String :=
  area.fields.map area.path

def Same (settings other : Settings) : Area -> Prop
  | .listener => settings.listener = other.listener
  | .scheduler => settings.scheduler = other.scheduler
  | .cache => settings.cache = other.cache
  | .tunnel => settings.tunnel = other.tunnel
  | .timeouts => settings.timeouts = other.timeouts
  | .limits => settings.limits = other.limits
  | .blocklist => settings.blocklist = other.blocklist
  | .parent => settings.parent = other.parent
  | .report => settings.report = other.report
  | .admin => settings.admin = other.admin

private theorem nodup_fields (area : Area) : area.fields.Nodup := by
  cases area <;> decide

end Area

def schema : List String :=
  Area.all.flatMap Area.paths

theorem part_cons {α : Type} (key : String) (value : Toml.Value) (others : Toml.Fields)
    (name : String) (unset : α) (read : Section -> Option α) :
    part ((key, value) :: others) name unset read =
      if name = key then (Section.ofValue? value).bind read
      else part others name unset read := by
  unfold part Toml.Fields.find?
  by_cases h : name = key
  · rw [if_pos h, h, List.lookup_cons_self]
  · rw [if_neg h, List.lookup_cons, beq_false_of_ne h]

/-- The order of the fields of an area is the one in which an array gives them. -/
theorem ofFields?_listed (area : Area) (items : List Toml.Value) (standing : Toml.Standing)
    (others : Toml.Fields) :
    ofFields? ((area.name, .array items) :: others) =
      ofFields? ((area.name, .table standing (area.fields.zip items)) :: others) := by
  have h := Section.alike_listed area.nodup_fields items
  unfold ofFields?
  -- The other areas are read from the other entries.
  cases area <;> simp only [part_cons, Area.name, String.reduceEq, reduceIte,
    Section.ofValue?, Option.bind_some]
  case listener => simp only [listenerOf, Section.get, h 0 _ rfl]
  case scheduler => simp only [schedulerOf, Section.get, h 0 _ rfl, h 1 _ rfl]
  case cache => simp only [cacheOf, Section.get, h 0 _ rfl, h 1 _ rfl, h 2 _ rfl]
  case tunnel => simp only [tunnelOf, Section.get, h 0 _ rfl, h 1 _ rfl]
  case timeouts => simp only [timeoutsOf, Section.get, h 0 _ rfl, h 1 _ rfl, h 2 _ rfl]
  case limits => simp only [limitsOf, Section.get, h 0 _ rfl, h 1 _ rfl, h 2 _ rfl]
  case blocklist => simp only [blocklistOf, Section.get, h 0 _ rfl]
  case parent => simp only [parentOf, Section.need, h 0 _ rfl, h 1 _ rfl]
  case report => simp only [reportOf, Section.get, h 0 _ rfl, h 1 _ rfl, h 2 _ rfl]
  case admin => simp only [adminOf, Section.get, h 0 _ rfl, h 1 _ rfl, h 2 _ rfl]

end Settings

end Intermediary
