import ChunkTree.Schema.Document.Field

/-!
# The database file

Actors, skills, items, terms and system settings.
-/

namespace ChunkTree.Document

def dataBaseFile : Value :=
  file "LcfDataBase" [
    root "database" "array1d" (some "Database")]

def database : Value :=
  composite "Database" "array1d" [
    rows 11 "actors" "Actor",
    rows 12 "skills" "Skill",
    rows 13 "items" "Item",
    plain 21 "terms" "Terms",
    plain 22 "system" "System",
    rows 23 "switches" "Switch",
    rows 24 "variables" "Variable",
    rows 25 "commonevents" "CommonEvent"]

def actor : Value :=
  composite "Actor" "array2d" [
    preset 1 "name" "string" (.string ""),
    preset 2 "title" "string" (.string ""),
    preset 3 "character_name" "string" (.string ""),
    preset 4 "character_index" "integer" (.int 0),
    preset 5 "transparent" "bool" (.bool false),
    preset 7 "initial_level" "integer" (.int 1),
    preset 8 "final_level" "integer" (.int 50),
    preset 9 "critical_hit" "bool" (.bool true),
    preset 10 "critical_hit_chance" "integer" (.int 30),
    preset 15 "face_name" "string" (.string ""),
    preset 16 "face_index" "integer" (.int 0),
    preset 21 "two_weapon" "bool" (.bool false),
    preset 22 "lock_equipment" "bool" (.bool false),
    preset 23 "auto_battle" "bool" (.bool false),
    preset 24 "super_guard" "bool" (.bool false),
    plain 31 "parameters" "int16array",
    preset 41 "exp_base" "integer" (.int 30),
    preset 42 "exp_inflation" "integer" (.int 30),
    preset 43 "exp_correction" "integer" (.int 0),
    plain 51 "initial_equipment" "int16array",
    preset 56 "unarmed_animation" "integer" (.int 1),
    rows 63 "skills" "Learning",
    preset 71 "_state_ranks_size" "integer" (.int 0),
    plain 72 "state_ranks" "int8array",
    preset 73 "_attribute_ranks_size" "integer" (.int 0),
    plain 74 "attribute_ranks" "int8array"]

def learning : Value :=
  composite "Learning" "array2d" [
    preset 1 "level" "integer" (.int 1),
    preset 2 "skill_id" "integer" (.int 1)]

def skill : Value :=
  composite "Skill" "array2d" [
    preset 1 "name" "string" (.string ""),
    preset 2 "description" "string" (.string ""),
    preset 3 "using_message1" "string" (.string ""),
    preset 4 "using_message2" "string" (.string ""),
    preset 7 "failure_message" "integer" (.int 0),
    preset 8 "type" "integer" (.int 0),
    preset 11 "sp_cost" "integer" (.int 0),
    preset 12 "scope" "integer" (.int 0),
    preset 13 "switch_id" "SwitchId" (.int 1),
    preset 14 "animation_id" "integer" (.int 1),
    plain 16 "sound_effect" "Sound",
    preset 18 "occasion_field" "bool" (.bool true),
    preset 19 "occasion_battle" "bool" (.bool false),
    preset 21 "physical_rate" "integer" (.int 0),
    preset 22 "magical_rate" "integer" (.int 3),
    preset 23 "variance" "integer" (.int 4),
    preset 24 "power" "integer" (.int 0),
    preset 25 "hit" "integer" (.int 100),
    preset 31 "affect_hp" "bool" (.bool false),
    preset 32 "affect_sp" "bool" (.bool false),
    preset 41 "_state_effects_size" "integer" (.int 0),
    plain 42 "state_effects" "int8array",
    preset 43 "_attribute_effects_size" "integer" (.int 0),
    plain 44 "attribute_effects" "int8array",
    preset 45 "affect_attr_defence" "bool" (.bool false)]

def itemDocument : Value :=
  composite "Item" "array2d" [
    preset 1 "name" "string" (.string ""),
    preset 2 "description" "string" (.string ""),
    preset 3 "type" "integer" (.int 0),
    preset 5 "price" "integer" (.int 0),
    preset 6 "uses" "integer" (.int 1),
    preset 11 "atk_points1" "integer" (.int 0),
    preset 12 "def_points1" "integer" (.int 0),
    preset 13 "spi_points1" "integer" (.int 0),
    preset 14 "agi_points1" "integer" (.int 0),
    preset 15 "two_handed" "bool" (.bool false),
    preset 16 "sp_cost" "integer" (.int 0),
    preset 17 "hit" "integer" (.int 90),
    preset 18 "critical_hit" "integer" (.int 0),
    preset 20 "animation_id" "integer" (.int 1),
    preset 21 "preemptive" "bool" (.bool false),
    preset 61 "_actor_set_size" "integer" (.int 0),
    plain 62 "actor_set" "int8array",
    preset 63 "_state_set_size" "integer" (.int 0),
    plain 64 "state_set" "int8array"]

def terms : Value :=
  composite "Terms" "array1d" [
    preset 1 "encounter" "string" (.string ""),
    preset 2 "special_combat" "string" (.string ""),
    preset 3 "escape_success" "string" (.string ""),
    preset 4 "escape_failure" "string" (.string ""),
    preset 5 "victory" "string" (.string ""),
    preset 6 "defeat" "string" (.string ""),
    preset 7 "exp_received" "string" (.string ""),
    preset 8 "gold_recieved_a" "string" (.string ""),
    preset 9 "gold_recieved_b" "string" (.string ""),
    preset 10 "item_recieved" "string" (.string ""),
    preset 95 "gold" "string" (.string ""),
    preset 101 "command_fight" "string" (.string ""),
    preset 102 "command_auto" "string" (.string ""),
    preset 103 "command_escape" "string" (.string ""),
    preset 106 "command_item" "string" (.string ""),
    preset 107 "command_skill" "string" (.string ""),
    preset 108 "command_equipment" "string" (.string ""),
    preset 110 "command_save" "string" (.string ""),
    preset 112 "command_end_game" "string" (.string "")]

def systemDocument : Value :=
  composite "System" "array1d" [
    preset 10 "ldb_id" "integer" (.int 0),
    preset 11 "boat_name" "string" (.string ""),
    preset 12 "ship_name" "string" (.string ""),
    preset 13 "airship_name" "string" (.string ""),
    preset 14 "boat_index" "integer" (.int 0),
    preset 15 "ship_index" "integer" (.int 0),
    preset 16 "airship_index" "integer" (.int 0),
    preset 17 "title_name" "string" (.string ""),
    preset 18 "gameover_name" "string" (.string ""),
    preset 19 "system_name" "string" (.string ""),
    preset 21 "_party_size" "integer" (.int 0),
    plain 22 "party" "int16array",
    plain 31 "title_music" "Music",
    plain 32 "battle_music" "Music",
    plain 33 "battle_end_music" "Music",
    plain 34 "inn_music" "Music",
    plain 41 "cursor_se" "Sound",
    plain 42 "decision_se" "Sound",
    plain 43 "cancel_se" "Sound",
    plain 44 "buzzer_se" "Sound",
    preset 71 "transition_out" "integer" (.int 0),
    preset 72 "transition_in" "integer" (.int 0),
    preset 91 "save_count" "integer" (.int 0)]

def switchDocument : Value :=
  composite "Switch" "array2d" [
    preset 1 "name" "string" (.string "")]

def variableDocument : Value :=
  composite "Variable" "array2d" [
    preset 1 "name" "string" (.string "")]

def commonEvent : Value :=
  composite "CommonEvent" "array2d" [
    preset 1 "name" "string" (.string ""),
    preset 11 "trigger" "integer" (.int 0),
    preset 12 "switch_flag" "bool" (.bool false),
    preset 13 "switch_id" "SwitchId" (.int 1),
    preset 21 "_event_commands_size" "integer" (.int 0),
    plain 22 "event_commands" "event"]

end ChunkTree.Document
