/-!
# ChangeRouting.CommandLine.Template

The configuration an operator begins with.
-/

namespace ChangeRouting

/-- A configuration for a node, with examples of what can be added to it. -/
def configurationTemplate (node : String) : String :=
  "\n".intercalate [
    "# WolfRoute Configuration",
    "# Generated configuration file",
    "",
    "[node]",
    "id = \"" ++ node ++ "\"",
    "group_id = \"corp\"",
    "",
    "[database]",
    "path = \"/var/lib/wolfroute/" ++ node ++ "/routing.db\"",
    "busy_timeout_ms = 5000",
    "",
    "[platform]",
    "kind = \"sqlite\"",
    "# kind = \"mariadb\"",
    "# host = \"localhost\"",
    "# port = 3306",
    "# user = \"wolfroute\"",
    "# password = \"changeme\"",
    "",
    "[routing]",
    "interval_ms = 1000",
    "peek_ahead_window = 100",
    "take_timeout_ms = 30000",
    "stale_gap_ms = 1200000",
    "gap_retention_hours = 24",
    "",
    "[logging]",
    "level = \"info\"",
    "format = \"pretty\"",
    "",
    "[[channels]]",
    "id = \"default\"",
    "batch_algorithm = \"default\"",
    "max_batch_size = 1000",
    "",
    "[[routers]]",
    "id = \"corp_2_store\"",
    "type = \"default\"",
    "source_group = \"corp\"",
    "target_group = \"store\"",
    "",
    "# [[routers]]",
    "# id = \"corp_2_store_by_id\"",
    "# type = \"column\"",
    "# source_group = \"corp\"",
    "# target_group = \"store\"",
    "# expression = \"STORE_ID=:EXTERNAL_ID\"",
    "",
    "# [[triggers]]",
    "# id = \"item\"",
    "# table = \"ITEM\"",
    "# channel = \"default\"",
    "# routers = [\"corp_2_store\"]",
    ""]

end ChangeRouting
