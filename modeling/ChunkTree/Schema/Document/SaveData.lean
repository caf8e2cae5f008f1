import ChunkTree.Schema.Document.Field

/-!
# The save file

The state of a game in progress.
-/

namespace ChunkTree.Document

def saveDataFile : Value :=
  file "LcfSaveData" [
    root "save" "array1d" (some "Save")]

def saveDocument : Value :=
  composite "Save" "array1d" [
    plain 100 "title" "SaveTitle",
    plain 101 "system" "SaveSystem",
    plain 102 "screen" "SaveScreen",
    rows 108 "actors" "SaveActor",
    plain 109 "inventory" "SaveInventory"]

def saveTitle : Value :=
  composite "SaveTitle" "array1d" [
    preset 1 "timestamp" "float" (.float ⟨0x0000000000000000⟩),
    preset 11 "hero_name" "string" (.string ""),
    preset 12 "hero_level" "integer" (.int 0),
    preset 13 "hero_hp" "integer" (.int 0),
    preset 21 "face1_name" "string" (.string ""),
    preset 22 "face1_id" "integer" (.int 0),
    preset 23 "face2_name" "string" (.string ""),
    preset 24 "face2_id" "integer" (.int 0),
    preset 25 "face3_name" "string" (.string ""),
    preset 26 "face3_id" "integer" (.int 0),
    preset 27 "face4_name" "string" (.string ""),
    preset 28 "face4_id" "integer" (.int 0)]

def saveSystem : Value :=
  composite "SaveSystem" "array1d" [
    preset 1 "scene" "integer" (.int 0),
    preset 11 "frame_count" "integer" (.int 0),
    preset 21 "graphics_name" "string" (.string ""),
    preset 31 "_switches_size" "integer" (.int 0),
    plain 32 "switches" "int8array",
    preset 33 "_variables_size" "integer" (.int 0),
    plain 34 "variables" "int32array",
    preset 41 "message_transparent" "integer" (.int 0),
    preset 42 "message_position" "integer" (.int 2),
    preset 43 "message_prevent_overlap" "integer" (.int 1),
    preset 44 "message_continue_events" "integer" (.int 0),
    plain 71 "title_music" "Music",
    plain 72 "battle_music" "Music",
    plain 81 "cursor_se" "Sound",
    preset 131 "save_count" "integer" (.int 0)]

def saveScreen : Value :=
  composite "SaveScreen" "array1d" [
    preset 1 "tint_finish_red" "integer" (.int 100),
    preset 2 "tint_finish_green" "integer" (.int 100),
    preset 3 "tint_finish_blue" "integer" (.int 100),
    preset 4 "tint_finish_sat" "integer" (.int 100),
    preset 11 "tint_current_red" "float" (.float ⟨0x4059000000000000⟩),
    preset 12 "tint_current_green" "float" (.float ⟨0x4059000000000000⟩),
    preset 13 "tint_current_blue" "float" (.float ⟨0x4059000000000000⟩),
    preset 14 "tint_current_sat" "float" (.float ⟨0x4059000000000000⟩),
    preset 15 "tint_time_left" "integer" (.int 0),
    preset 21 "flash_continuous" "bool" (.bool false),
    preset 22 "flash_red" "integer" (.int 0),
    preset 23 "flash_green" "integer" (.int 0),
    preset 24 "flash_blue" "integer" (.int 0),
    preset 25 "flash_current_level" "float" (.float ⟨0x0000000000000000⟩),
    preset 26 "flash_time_left" "integer" (.int 0),
    preset 41 "weather" "integer" (.int 0),
    preset 42 "weather_strength" "integer" (.int 0)]

def saveActor : Value :=
  composite "SaveActor" "array2d" [
    preset 1 "name" "string" (.string ""),
    preset 2 "title" "string" (.string ""),
    preset 11 "sprite_name" "string" (.string ""),
    preset 12 "sprite_id" "integer" (.int 0),
    preset 13 "sprite_flags" "integer" (.int 0),
    preset 21 "face_name" "string" (.string ""),
    preset 22 "face_id" "integer" (.int 0),
    preset 31 "level" "integer" (.int (-1)),
    preset 32 "exp" "integer" (.int (-1)),
    preset 33 "hp_mod" "integer" (.int (-1)),
    preset 34 "sp_mod" "integer" (.int (-1)),
    preset 41 "attack_mod" "integer" (.int 0),
    preset 42 "defense_mod" "integer" (.int 0),
    preset 43 "spirit_mod" "integer" (.int 0),
    preset 44 "agility_mod" "integer" (.int 0),
    preset 51 "_skills_size" "integer" (.int 0),
    plain 52 "skills" "int16array",
    plain 61 "equipped" "int16array",
    preset 71 "current_hp" "integer" (.int (-1)),
    preset 72 "current_sp" "integer" (.int (-1)),
    preset 80 "_status_size" "integer" (.int 0),
    plain 81 "status" "int16array",
    preset 82 "changed_battle_commands" "bool" (.bool false),
    preset 83 "class_id" "integer" (.int (-1)),
    preset 84 "two_weapon" "bool" (.bool false)]

def saveInventory : Value :=
  composite "SaveInventory" "array1d" [
    preset 1 "_party_size" "integer" (.int 0),
    plain 2 "party" "int16array",
    count 11 "_items_size" "integer" (.int 0) "item_ids",
    plain 12 "item_ids" "int16array",
    plain 13 "item_counts" "int8array",
    plain 14 "item_usage" "int8array",
    preset 21 "gold" "integer" (.int 0),
    preset 22 "timer1_secs" "integer" (.int 0),
    preset 32 "steps" "integer" (.int 0),
    preset 41 "saves" "integer" (.int 0),
    preset 42 "battles" "integer" (.int 0),
    preset 43 "defeats" "integer" (.int 0),
    preset 44 "escapes" "integer" (.int 0),
    preset 45 "victories" "integer" (.int 0)]

end ChunkTree.Document
