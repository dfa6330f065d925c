/-!
# Reserved words

Words of the query language that cannot name a field: keywords, types and built-in functions.
-/

namespace Provenance

/-- Words that cannot name a field. -/
def reservedWords : List String :=
  ["abort", "add", "add_months", "adddate", "aggregate", "all", "alter", "analyze", "analytic",
   "and", "any", "appx_median", "archive", "array", "as", "asc", "authorization", "avg",
   "between", "bigint", "binary", "boolean", "both", "break", "bucket", "buckets", "by", "cache",
   "case", "cascade", "cast", "change", "char", "class", "close", "cluster", "clustered",
   "coalesce", "collection", "column", "columns", "comment", "compact", "compactions", "compute",
   "conf", "continue", "count", "create", "cross", "current", "current_date", "current_timestamp",
   "cursor", "data", "database", "databases", "date", "date_add", "date_sub", "datediff",
   "datetime", "day", "dayname", "dayofmonth", "dayofweek", "dayofyear", "dbproperties",
   "decimal", "deferred", "delimited", "dependency", "desc", "describe", "directories",
   "directory", "disable", "distinct", "distribute", "div", "double", "drop", "else", "enable",
   "end", "escape", "escaped", "except", "exchange", "exclusive", "exists", "explain", "extract",
   "extended", "external", "false", "fetch", "field", "fields", "file", "fileformat", "files",
   "finalize", "first", "float", "floor", "following", "for", "format", "from", "from_timestamp",
   "from_unixtime", "from_utc_timestamp", "full", "function", "functions", "grant", "group",
   "having", "hold", "hour", "if", "ifnull", "import", "in", "incremental", "init", "initially",
   "inner", "inputdriver", "inputformat", "inpath", "insert", "int", "integer", "intersect",
   "interval", "into", "is", "isnull", "item", "join", "key", "keys", "last", "last_day",
   "lateral", "left", "length", "like", "limit", "lines", "load", "local", "location", "lock",
   "locks", "log", "lower", "macro", "map", "mapjoin", "materialized", "max", "merge", "metadata",
   "min", "minus", "minute", "more", "months_between", "none", "nonstrict", "not", "now", "null",
   "nulls", "nvl", "offset", "on", "or", "order", "outer", "outputdriver", "outputformat", "over",
   "overwrite", "parquet", "partition", "partitioned", "partitions", "percent", "power",
   "preceding", "primary", "procedure", "protection", "purge", "range", "read", "readonly",
   "real", "rebuild", "recordreader", "recordwriter", "recover", "regexp_count", "regexp_extract",
   "regexp_instr", "regexp_like", "regexp_replace", "regexp_substr", "reload", "rename",
   "replace", "replication", "repair", "restrict", "revoke", "rewrite", "right", "rlike", "role",
   "roles", "rollback", "round", "row", "rows", "schema", "schemas", "second", "select", "semi",
   "sequencefile", "serde", "serdeproperties", "server", "set", "sets", "shared", "show",
   "skewed", "smallint", "sort", "sqrt", "ssl", "statistics", "stored", "streamtable",
   "str_to_timestamp", "string", "struct", "substr", "sum", "table", "tables", "tablesample",
   "tblproperties", "temporary", "terminated", "textfile", "then", "timestamp",
   "timestamp_micros", "timestamp_millis", "timestamp_seconds", "tinyint", "to", "to_date",
   "to_timestamp", "to_unix_timestamp", "touch", "transform", "transaction", "transactions",
   "trim", "true", "trunc", "truncate", "typeof", "unarchive", "unbounded", "union", "unique",
   "unix_timestamp", "unlock", "unsigned", "update", "upper", "use", "using", "validate", "value",
   "values", "variance", "varchar", "view", "views", "wait", "when", "where", "while", "with",
   "write"]

/-- Whether a word cannot name a field. -/
def isReserved (word : String) : Bool := reservedWords.contains word

end Provenance
