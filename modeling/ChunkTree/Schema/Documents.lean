import ChunkTree.Schema.Basic
import ChunkTree.Schema.Document.Database
import ChunkTree.Schema.Document.Map
import ChunkTree.Schema.Document.MapTree
import ChunkTree.Schema.Document.SaveData
import ChunkTree.Schema.Document.Shared

/-!
# Registered documents

All documents that schemas may refer to, by signature or name.  A document with a signature describes a file.
-/

namespace ChunkTree.Document

/-- The registered documents. -/
def all : List (String × Value) := [
  ("Music", music),
  ("Sound", sound),
  ("Encounter", encounter),
  ("MoveRoute", moveRoute),
  ("MapId", mapId),
  ("SwitchId", switchId),
  ("LcfMapTree", mapTreeFile),
  ("MapInfo", mapInfo),
  ("Start", startDocument),
  ("LcfMapUnit", mapUnitFile),
  ("Map", mapDocument),
  ("Event", eventDocument),
  ("EventPage", eventPage),
  ("EventPageCondition", eventPageCondition),
  ("LcfDataBase", dataBaseFile),
  ("Database", database),
  ("Actor", actor),
  ("Learning", learning),
  ("Skill", skill),
  ("Item", itemDocument),
  ("Terms", terms),
  ("System", systemDocument),
  ("Switch", switchDocument),
  ("Variable", variableDocument),
  ("CommonEvent", commonEvent),
  ("LcfSaveData", saveDataFile),
  ("Save", saveDocument),
  ("SaveTitle", saveTitle),
  ("SaveSystem", saveSystem),
  ("SaveScreen", saveScreen),
  ("SaveActor", saveActor),
  ("SaveInventory", saveInventory)]

/-- The document registered under a signature or name. -/
def find? (name : String) : Option Schema :=
  (all.lookup name).map Schema.mk

/-- The document that describes the files with a signature. -/
def ofSignature? (signature : String) : Option Schema :=
  (find? signature).filter fun document => document.signature?.isSome

/-- The names of all documents, in alphabetical order. -/
def names : List String :=
  (all.map Prod.fst).mergeSort fun a b => decide (a ≤ b)

/-- The signatures of all files, in alphabetical order. -/
def signatures : List String :=
  (all.filterMap fun entry => (Schema.mk entry.2).signature?).mergeSort fun a b => decide (a ≤ b)

end ChunkTree.Document
