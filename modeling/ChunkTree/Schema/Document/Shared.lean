import ChunkTree.Schema.Document.Field

/-!
# Shared documents

Sounds, routes and identifiers that several other documents refer to.
-/

namespace ChunkTree.Document

def music : Value :=
  composite "Music" "array1d" [
    preset 1 "name" "string" (.string "(OFF)"),
    preset 2 "fadein" "integer" (.int 0),
    preset 3 "volume" "integer" (.int 100),
    preset 4 "tempo" "integer" (.int 100),
    preset 5 "balance" "integer" (.int 50)]

def sound : Value :=
  composite "Sound" "array1d" [
    preset 1 "name" "string" (.string "(OFF)"),
    preset 3 "volume" "integer" (.int 100),
    preset 4 "tempo" "integer" (.int 100),
    preset 5 "balance" "integer" (.int 50)]

def encounter : Value :=
  composite "Encounter" "array2d" [
    preset 1 "troop_id" "integer" (.int 0)]

def moveRoute : Value :=
  composite "MoveRoute" "array1d" [
    preset 11 "_move_commands_size" "integer" (.int 0),
    plain 12 "move_commands" "ber_array",
    preset 21 "repeat" "bool" (.bool true),
    preset 22 "skippable" "bool" (.bool false)]

def mapId : Value :=
  aliasOf "MapId" "integer"

def switchId : Value :=
  aliasOf "SwitchId" "integer"

end ChunkTree.Document
