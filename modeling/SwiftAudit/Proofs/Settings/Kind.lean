import SwiftAudit.Proofs.Settings.Merge

namespace SwiftAudit

inductive Json.Kind where
  | null
  | bool
  | int
  | float
  | text
  | list
  | object
  deriving DecidableEq, Repr

def Json.kind : Json → Kind
  | .null => .null
  | .bool _ => .bool
  | .int _ => .int
  | .float _ => .float
  | .text _ => .text
  | .list _ => .list
  | .object _ => .object

-- Settings without their types: a table of values in which nothing but the value that a key
-- has says of which kind it is. It is the value held so far that decides how a new one is read.
namespace Table

def readLike (key : CodeText) (new : Json) : (held : Json) → Except Halt Json
  | .list _ => do return .list ((← Settings.readSet key new).members.map Scalar.toJson)
  | .object table => do return .object (Assoc.merge table (← Settings.readTable key new))
  | .bool _ => do return .bool (← Settings.readFlag key new)
  | .int _ => do return .int (← Settings.readNumber key new)
  | .float _ => do return .float (← Settings.readRatio key new)
  | _ => .ok new

def assignKey (table : List (CodeText × Json)) (entry : CodeText × Json) :
    Except Halt (List (CodeText × Json)) :=
  match table.lookup entry.1 with
  | some held => do return Assoc.put entry.1 (← readLike entry.1 entry.2 held) table
  | none => .error (.settings (.unknownKeys [entry.1]))

def unknownKeys (table entries : List (CodeText × Json)) : List CodeText :=
  (entries.filter fun entry => (table.lookup entry.1).isNone).map (·.1)

def merge (table entries : List (CodeText × Json)) : Except Halt (List (CodeText × Json)) :=
  match unknownKeys table entries with
  | [] => entries.foldlM assignKey table
  | keys => .error (.settings (.unknownKeys (keys.mergeSort (· ≤ ·))))

def kinds (table : List (CodeText × Json)) : List (CodeText × Json.Kind) :=
  table.map fun entry => (entry.1, entry.2.kind)

end Table

namespace Settings

theorem lookup_map_value (f : Setting → Json) (settings : List Setting) (key : CodeText) :
    (settings.map fun setting => (setting.key, f setting)).lookup key =
      (settings.find? (·.key == key)).map f := by
  induction settings with
  | nil => rfl
  | cons setting rest ih =>
      rw [List.map_cons]
      by_cases hk : setting.key = key
      · subst hk
        simp
      · rw [Assoc.lookup_cons_of_ne (Ne.symm hk), ih,
          List.find?_cons_of_neg (by simpa using hk)]

theorem lookup_entries (settings : Settings) (key : CodeText) :
    settings.entries.lookup key = (Setting.ofKey? key).map settings.value :=
  lookup_map_value settings.value Setting.all key

theorem mem_all (setting : Setting) : setting ∈ Setting.all := by
  have hfound := Setting.ofKey?_key setting
  exact List.mem_of_find?_eq_some hfound

theorem nodup_all : Setting.all.Nodup := by decide

theorem put_map_value {setting : Setting} {f g : Setting → Json}
    (hother : ∀ other, other ≠ setting → g other = f other) (settings : List Setting)
    (hnodup : settings.Nodup) (hm : setting ∈ settings) :
    Assoc.put setting.key (g setting) (settings.map fun s => (s.key, f s)) =
      settings.map fun s => (s.key, g s) := by
  induction settings with
  | nil => cases hm
  | cons head rest ih =>
      obtain ⟨hnew, hrest⟩ := List.nodup_cons.mp hnodup
      rw [List.map_cons, List.map_cons]
      by_cases hs : head = setting
      · subst hs
        rw [Assoc.put_cons_self]
        congr 1
        apply List.map_congr_left
        intro other ho
        rw [hother other]
        rintro rfl
        exact hnew ho
      · have hkey : head.key ≠ setting.key := fun h => hs (Setting.key_inj h)
        have hmem : setting ∈ rest := (List.mem_cons.mp hm).resolve_left (Ne.symm hs)
        rw [Assoc.put_cons_of_ne hkey, ih hrest hmem, hother head hs]

theorem readLike_value (settings : Settings) (setting : Setting) (new : Json) :
    Table.readLike setting.key new (settings.value setting) =
      (settings.assign setting new).map (·.value setting) := by
  cases setting with
  | number s =>
      simp only [Table.readLike, value, assign]
      cases readNumber (Setting.number s).key new <;> simp
  | flag s =>
      simp only [Table.readLike, value, assign]
      cases readFlag (Setting.flag s).key new <;> simp
  | set s =>
      simp only [Table.readLike, value, assign]
      cases readSet (Setting.set s).key new <;> simp
  | similarityThreshold =>
      simp only [Table.readLike, value, assign]
      cases readRatio Setting.similarityThreshold.key new <;> simp
  | deprecatedApis =>
      simp only [Table.readLike, value, assign]
      cases readTable Setting.deprecatedApis.key new <;> simp

-- Assigning to the settings and overwriting in their table are the same.
theorem assignKey_entries (settings : Settings) (entry : CodeText × Json) :
    Table.assignKey settings.entries entry = (settings.assignKey entry).map entries := by
  unfold Table.assignKey assignKey
  rw [lookup_entries]
  cases hfound : Setting.ofKey? entry.1 with
  | none => rfl
  | some setting =>
      rw [← Setting.key_of_ofKey? hfound, Option.map_some]
      dsimp only
      rw [readLike_value]
      cases h : settings.assign setting entry.2 with
      | error halt => rfl
      | ok changed =>
          have hput := put_map_value (value_of_assign h).2 Setting.all nodup_all (mem_all setting)
          exact congrArg Except.ok hput

theorem foldlM_assignKey_entries (settings : Settings) (entries : List (CodeText × Json)) :
    entries.foldlM Table.assignKey settings.entries =
      (entries.foldlM assignKey settings).map Settings.entries := by
  induction entries generalizing settings with
  | nil => rfl
  | cons entry rest ih =>
      rw [List.foldlM_cons, List.foldlM_cons, assignKey_entries]
      cases settings.assignKey entry with
      | error halt => rfl
      | ok changed => exact ih changed

theorem unknownKeys_entries (settings : Settings) (entries : List (CodeText × Json)) :
    Table.unknownKeys settings.entries entries = unknownKeys entries := by
  simp [Table.unknownKeys, unknownKeys, lookup_entries]

-- Of settings that are kept in an untyped table each value keeps its kind, so that the typed
-- ones lose nothing.
theorem merge_entries (settings : Settings) (entries : List (CodeText × Json)) :
    Table.merge settings.entries entries = (settings.merge entries).map Settings.entries := by
  unfold Table.merge merge
  rw [unknownKeys_entries]
  cases unknownKeys entries with
  | nil => exact foldlM_assignKey_entries settings entries
  | cons key rest => rfl

theorem kind_value (a b : Settings) (setting : Setting) :
    (a.value setting).kind = (b.value setting).kind := by
  cases setting <;> rfl

theorem kinds_entries (a b : Settings) : Table.kinds a.entries = Table.kinds b.entries := by
  simp [Table.kinds, entries, kind_value a b]

end Settings

end SwiftAudit
