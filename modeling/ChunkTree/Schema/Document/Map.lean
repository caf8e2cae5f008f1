import ChunkTree.Schema.Document.Field

/-!
# The map file

A single map with its layers and events.
-/

namespace ChunkTree.Document

def mapUnitFile : Value :=
  file "LcfMapUnit" [
    root "map" "array1d" (some "Map")]

def mapDocument : Value :=
  composite "Map" "array1d" [
    preset 1 "chipset_id" "integer" (.int 1),
    preset 2 "width" "integer" (.int 20),
    preset 3 "height" "integer" (.int 15),
    preset 11 "scroll_type" "integer" (.int 0),
    preset 31 "parallax_flag" "bool" (.bool false),
    preset 32 "parallax_name" "string" (.string ""),
    preset 33 "parallax_loop_x" "bool" (.bool false),
    preset 34 "parallax_loop_y" "bool" (.bool false),
    preset 35 "parallax_auto_loop_x" "bool" (.bool false),
    preset 36 "parallax_sx" "integer" (.int 0),
    preset 37 "parallax_auto_loop_y" "bool" (.bool false),
    preset 38 "parallax_sy" "integer" (.int 0),
    plain 71 "lower_layer" "int16array",
    plain 72 "upper_layer" "int16array",
    rows 81 "events" "Event",
    preset 91 "save_count" "integer" (.int 0)]

def eventDocument : Value :=
  composite "Event" "array2d" [
    preset 1 "name" "string" (.string ""),
    preset 2 "x" "integer" (.int 0),
    preset 3 "y" "integer" (.int 0),
    rows 5 "pages" "EventPage"]

def eventPage : Value :=
  composite "EventPage" "array2d" [
    plain 2 "condition" "EventPageCondition",
    preset 21 "character_name" "string" (.string ""),
    preset 22 "character_index" "integer" (.int 0),
    preset 23 "character_direction" "integer" (.int 2),
    preset 24 "character_pattern" "integer" (.int 1),
    preset 25 "translucent" "bool" (.bool false),
    preset 31 "move_type" "integer" (.int 1),
    preset 32 "move_frequency" "integer" (.int 3),
    preset 33 "trigger" "integer" (.int 0),
    preset 34 "layer" "integer" (.int 0),
    preset 35 "overlap_forbidden" "bool" (.bool false),
    preset 36 "animation_type" "integer" (.int 0),
    preset 37 "move_speed" "integer" (.int 3),
    plain 41 "move_route" "MoveRoute",
    preset 51 "_event_commands_size" "integer" (.int 0),
    plain 52 "event_commands" "event"]

def eventPageCondition : Value :=
  composite "EventPageCondition" "array1d" [
    preset 1 "flags" "integer" (.int 0),
    preset 2 "switch_a_id" "SwitchId" (.int 1),
    preset 3 "switch_b_id" "SwitchId" (.int 1),
    preset 4 "variable_id" "integer" (.int 1),
    preset 5 "variable_value" "integer" (.int 0),
    preset 6 "item_id" "integer" (.int 1),
    preset 7 "actor_id" "integer" (.int 1),
    preset 8 "timer_sec" "integer" (.int 0)]

end ChunkTree.Document
