import ChunkTree.Schema.Document.Field

/-!
# The map tree file

The list of all maps, the order in which they are shown, and where the game starts.
-/

namespace ChunkTree.Document

def mapTreeFile : Value :=
  file "LcfMapTree" [
    root "maps" "array2d" (some "MapInfo"),
    root "tree_order" "map_tree" none,
    root "start" "array1d" (some "Start")]

def mapInfo : Value :=
  composite "MapInfo" "array2d" [
    preset 1 "name" "string" (.string ""),
    preset 2 "parent_map" "MapId" (.int 0),
    preset 3 "indentation" "integer" (.int 0),
    preset 4 "type" "integer" (.int 0),
    preset 5 "scrollbar_x" "integer" (.int 0),
    preset 6 "scrollbar_y" "integer" (.int 0),
    preset 7 "expanded_node" "bool" (.bool false),
    preset 11 "music_type" "integer" (.int 0),
    plain 12 "music" "Music",
    preset 21 "background_type" "integer" (.int 0),
    preset 22 "background_name" "string" (.string ""),
    preset 31 "teleport" "integer" (.int 0),
    preset 32 "escape" "integer" (.int 0),
    preset 33 "save" "integer" (.int 0),
    rows 41 "encounters" "Encounter",
    preset 44 "encounter_steps" "integer" (.int 25),
    plain 51 "area_rect" "int32array"]

def startDocument : Value :=
  composite "Start" "array1d" [
    preset 1 "party_map_id" "MapId" (.int 0),
    preset 2 "party_x" "integer" (.int 0),
    preset 3 "party_y" "integer" (.int 0),
    preset 11 "boat_map_id" "MapId" (.int 0),
    preset 12 "boat_x" "integer" (.int 0),
    preset 13 "boat_y" "integer" (.int 0),
    preset 21 "ship_map_id" "MapId" (.int 0),
    preset 22 "ship_x" "integer" (.int 0),
    preset 23 "ship_y" "integer" (.int 0),
    preset 31 "airship_map_id" "MapId" (.int 0),
    preset 32 "airship_x" "integer" (.int 0),
    preset 33 "airship_y" "integer" (.int 0)]

end ChunkTree.Document
