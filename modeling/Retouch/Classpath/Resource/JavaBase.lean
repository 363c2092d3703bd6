import Retouch.Classpath.Stub

/-!
# The platform library

The types of the platform that tests refer to.
-/

namespace Retouch.Resource

/-- The types of the platform that tests refer to. -/
def javaBase : List TypeStub := [
  { fqn := "java.lang.Object",
    methods := [
      { name := "equals", params := ["java.lang.Object"], returns := "boolean" },
      { name := "hashCode", returns := "int" },
      { name := "toString", returns := "java.lang.String" },
      { name := "getClass", returns := "java.lang.Class" }] },
  { fqn := "java.lang.Class",
    methods := [
      { name := "getName", returns := "java.lang.String" },
      { name := "getSimpleName", returns := "java.lang.String" },
      { name := "isInstance", params := ["java.lang.Object"], returns := "boolean" }] },
  { fqn := "java.io.Serializable",
    kind := .interface },
  { fqn := "java.lang.Cloneable",
    kind := .interface },
  { fqn := "java.lang.Comparable",
    kind := .interface,
    methods := [
      { name := "compareTo", params := ["java.lang.Object"], returns := "int" }] },
  { fqn := "java.lang.AutoCloseable",
    kind := .interface,
    functional := true,
    methods := [
      { name := "close" }] },
  { fqn := "java.lang.CharSequence",
    kind := .interface,
    methods := [
      { name := "length", returns := "int" },
      { name := "charAt", params := ["int"], returns := "char" },
      { name := "isEmpty", returns := "boolean" },
      { name := "subSequence", params := ["int", "int"], returns := "java.lang.CharSequence" }] },
  { fqn := "java.lang.String",
    supertypes := ["java.lang.CharSequence", "java.lang.Comparable", "java.io.Serializable"],
    methods := [
      { name := "length", returns := "int" },
      { name := "isEmpty", returns := "boolean" },
      { name := "isBlank", returns := "boolean" },
      { name := "charAt", params := ["int"], returns := "char" },
      { name := "substring", params := ["int"], returns := "java.lang.String" },
      { name := "substring", params := ["int", "int"], returns := "java.lang.String" },
      { name := "trim", returns := "java.lang.String" },
      { name := "strip", returns := "java.lang.String" },
      { name := "toUpperCase", returns := "java.lang.String" },
      { name := "toLowerCase", returns := "java.lang.String" },
      { name := "concat", params := ["java.lang.String"], returns := "java.lang.String" },
      { name := "contains", params := ["java.lang.CharSequence"], returns := "boolean" },
      { name := "startsWith", params := ["java.lang.String"], returns := "boolean" },
      { name := "endsWith", params := ["java.lang.String"], returns := "boolean" },
      { name := "indexOf", params := ["java.lang.String"], returns := "int" },
      { name := "equals", params := ["java.lang.Object"], returns := "boolean" },
      { name := "equalsIgnoreCase", params := ["java.lang.String"], returns := "boolean" },
      { name := "replace", params := ["java.lang.CharSequence", "java.lang.CharSequence"],
        returns := "java.lang.String" },
      { name := "repeat", params := ["int"], returns := "java.lang.String" },
      { name := "split", params := ["java.lang.String"], returns := "java.lang.String[]" },
      { name := "toCharArray", returns := "char[]" },
      { name := "getBytes", returns := "byte[]" },
      { name := "format", params := ["java.lang.String", "java.lang.Object[]"],
        returns := "java.lang.String", isStatic := true, varargs := true },
      { name := "join", params := ["java.lang.CharSequence", "java.lang.CharSequence[]"],
        returns := "java.lang.String", isStatic := true, varargs := true },
      { name := "valueOf", params := ["java.lang.Object"], returns := "java.lang.String",
        isStatic := true },
      { name := "valueOf", params := ["int"], returns := "java.lang.String", isStatic := true },
      { name := "valueOf", params := ["long"], returns := "java.lang.String", isStatic := true },
      { name := "valueOf", params := ["double"], returns := "java.lang.String", isStatic := true },
      { name := "valueOf", params := ["boolean"], returns := "java.lang.String",
        isStatic := true },
      { name := "valueOf", params := ["char"], returns := "java.lang.String", isStatic := true }] },
  { fqn := "java.lang.StringBuilder",
    supertypes := ["java.lang.CharSequence"],
    methods := [
      { name := "append", params := ["java.lang.String"], returns := "SELF" },
      { name := "append", params := ["java.lang.Object"], returns := "SELF" },
      { name := "append", params := ["int"], returns := "SELF" },
      { name := "append", params := ["long"], returns := "SELF" },
      { name := "append", params := ["char"], returns := "SELF" },
      { name := "length", returns := "int" },
      { name := "reverse", returns := "SELF" },
      { name := "toString", returns := "java.lang.String" }] },
  { fqn := "java.lang.Number",
    supertypes := ["java.io.Serializable"],
    methods := [
      { name := "intValue", returns := "int" },
      { name := "longValue", returns := "long" },
      { name := "floatValue", returns := "float" },
      { name := "doubleValue", returns := "double" }] },
  { fqn := "java.lang.Integer",
    supertypes := ["java.lang.Number", "java.lang.Comparable"],
    methods := [
      { name := "valueOf", params := ["int"], returns := "java.lang.Integer", isStatic := true },
      { name := "valueOf", params := ["java.lang.String"], returns := "java.lang.Integer",
        isStatic := true },
      { name := "parseInt", params := ["java.lang.String"], returns := "int", isStatic := true },
      { name := "toString", params := ["int"], returns := "java.lang.String", isStatic := true },
      { name := "compare", params := ["int", "int"], returns := "int", isStatic := true }],
    fields := [
      { name := "MAX_VALUE", type := "int", isStatic := true },
      { name := "MIN_VALUE", type := "int", isStatic := true }] },
  { fqn := "java.lang.Long",
    supertypes := ["java.lang.Number", "java.lang.Comparable"],
    methods := [
      { name := "valueOf", params := ["long"], returns := "java.lang.Long", isStatic := true },
      { name := "parseLong", params := ["java.lang.String"], returns := "long", isStatic := true }],
    fields := [
      { name := "MAX_VALUE", type := "long", isStatic := true },
      { name := "MIN_VALUE", type := "long", isStatic := true }] },
  { fqn := "java.lang.Double",
    supertypes := ["java.lang.Number", "java.lang.Comparable"],
    methods := [
      { name := "valueOf", params := ["double"], returns := "java.lang.Double", isStatic := true },
      { name := "parseDouble", params := ["java.lang.String"], returns := "double",
        isStatic := true },
      { name := "isNaN", params := ["double"], returns := "boolean", isStatic := true },
      { name := "compare", params := ["double", "double"], returns := "int", isStatic := true }],
    fields := [
      { name := "NaN", type := "double", isStatic := true },
      { name := "MAX_VALUE", type := "double", isStatic := true },
      { name := "MIN_VALUE", type := "double", isStatic := true },
      { name := "POSITIVE_INFINITY", type := "double", isStatic := true },
      { name := "NEGATIVE_INFINITY", type := "double", isStatic := true }] },
  { fqn := "java.lang.Float",
    supertypes := ["java.lang.Number", "java.lang.Comparable"],
    methods := [
      { name := "valueOf", params := ["float"], returns := "java.lang.Float", isStatic := true },
      { name := "parseFloat", params := ["java.lang.String"], returns := "float",
        isStatic := true }],
    fields := [
      { name := "NaN", type := "float", isStatic := true },
      { name := "MAX_VALUE", type := "float", isStatic := true }] },
  { fqn := "java.lang.Short",
    supertypes := ["java.lang.Number", "java.lang.Comparable"],
    methods := [
      { name := "valueOf", params := ["short"], returns := "java.lang.Short", isStatic := true }] },
  { fqn := "java.lang.Byte",
    supertypes := ["java.lang.Number", "java.lang.Comparable"],
    methods := [
      { name := "valueOf", params := ["byte"], returns := "java.lang.Byte", isStatic := true }] },
  { fqn := "java.lang.Boolean",
    supertypes := ["java.io.Serializable", "java.lang.Comparable"],
    methods := [
      { name := "valueOf", params := ["boolean"], returns := "java.lang.Boolean",
        isStatic := true },
      { name := "parseBoolean", params := ["java.lang.String"], returns := "boolean",
        isStatic := true },
      { name := "booleanValue", returns := "boolean" }],
    fields := [
      { name := "TRUE", type := "java.lang.Boolean", isStatic := true },
      { name := "FALSE", type := "java.lang.Boolean", isStatic := true }] },
  { fqn := "java.lang.Character",
    supertypes := ["java.io.Serializable", "java.lang.Comparable"],
    methods := [
      { name := "valueOf", params := ["char"], returns := "java.lang.Character",
        isStatic := true },
      { name := "isDigit", params := ["char"], returns := "boolean", isStatic := true },
      { name := "isLetter", params := ["char"], returns := "boolean", isStatic := true }] },
  { fqn := "java.math.BigDecimal",
    supertypes := ["java.lang.Number", "java.lang.Comparable"],
    methods := [
      { name := "valueOf", params := ["double"], returns := "java.math.BigDecimal",
        isStatic := true },
      { name := "valueOf", params := ["long"], returns := "java.math.BigDecimal",
        isStatic := true },
      { name := "add", params := ["java.math.BigDecimal"], returns := "java.math.BigDecimal" },
      { name := "multiply", params := ["java.math.BigDecimal"],
        returns := "java.math.BigDecimal" },
      { name := "compareTo", params := ["java.math.BigDecimal"], returns := "int" }],
    fields := [
      { name := "ZERO", type := "java.math.BigDecimal", isStatic := true },
      { name := "ONE", type := "java.math.BigDecimal", isStatic := true }] },
  { fqn := "java.lang.Math",
    methods := [
      { name := "abs", params := ["int"], returns := "int", isStatic := true },
      { name := "abs", params := ["long"], returns := "long", isStatic := true },
      { name := "abs", params := ["double"], returns := "double", isStatic := true },
      { name := "max", params := ["int", "int"], returns := "int", isStatic := true },
      { name := "max", params := ["long", "long"], returns := "long", isStatic := true },
      { name := "max", params := ["double", "double"], returns := "double", isStatic := true },
      { name := "min", params := ["int", "int"], returns := "int", isStatic := true },
      { name := "min", params := ["long", "long"], returns := "long", isStatic := true },
      { name := "min", params := ["double", "double"], returns := "double", isStatic := true },
      { name := "sqrt", params := ["double"], returns := "double", isStatic := true },
      { name := "pow", params := ["double", "double"], returns := "double", isStatic := true },
      { name := "round", params := ["double"], returns := "long", isStatic := true },
      { name := "floor", params := ["double"], returns := "double", isStatic := true },
      { name := "ceil", params := ["double"], returns := "double", isStatic := true },
      { name := "random", returns := "double", isStatic := true }],
    fields := [
      { name := "PI", type := "double", isStatic := true },
      { name := "E", type := "double", isStatic := true }] },
  { fqn := "java.lang.System",
    methods := [
      { name := "currentTimeMillis", returns := "long", isStatic := true },
      { name := "nanoTime", returns := "long", isStatic := true },
      { name := "getProperty", params := ["java.lang.String"], returns := "java.lang.String",
        isStatic := true },
      { name := "getenv", params := ["java.lang.String"], returns := "java.lang.String",
        isStatic := true },
      { name := "lineSeparator", returns := "java.lang.String", isStatic := true },
      { name := "arraycopy",
        params := ["java.lang.Object", "int", "java.lang.Object", "int", "int"],
        isStatic := true }],
    fields := [
      { name := "out", type := "java.io.PrintStream", isStatic := true },
      { name := "err", type := "java.io.PrintStream", isStatic := true }] },
  { fqn := "java.io.PrintStream",
    methods := [
      { name := "println" },
      { name := "println", params := ["java.lang.String"] },
      { name := "println", params := ["java.lang.Object"] },
      { name := "println", params := ["int"] },
      { name := "println", params := ["long"] },
      { name := "println", params := ["double"] },
      { name := "println", params := ["boolean"] },
      { name := "println", params := ["char"] },
      { name := "print", params := ["java.lang.String"] },
      { name := "print", params := ["java.lang.Object"] },
      { name := "printf", params := ["java.lang.String", "java.lang.Object[]"],
        returns := "java.io.PrintStream", varargs := true },
      { name := "flush" }] },
  { fqn := "java.lang.Thread",
    supertypes := ["java.lang.Runnable"],
    methods := [
      { name := "sleep", params := ["long"], isStatic := true },
      { name := "currentThread", returns := "java.lang.Thread", isStatic := true },
      { name := "getName", returns := "java.lang.String" }] },
  { fqn := "java.lang.Throwable",
    supertypes := ["java.io.Serializable"],
    methods := [
      { name := "getMessage", returns := "java.lang.String" },
      { name := "getCause", returns := "java.lang.Throwable" },
      { name := "printStackTrace" }] },
  { fqn := "java.lang.Exception",
    supertypes := ["java.lang.Throwable"] },
  { fqn := "java.lang.Error",
    supertypes := ["java.lang.Throwable"] },
  { fqn := "java.lang.AssertionError",
    supertypes := ["java.lang.Error"] },
  { fqn := "java.lang.RuntimeException",
    supertypes := ["java.lang.Exception"] },
  { fqn := "java.lang.IllegalArgumentException",
    supertypes := ["java.lang.RuntimeException"] },
  { fqn := "java.lang.IllegalStateException",
    supertypes := ["java.lang.RuntimeException"] },
  { fqn := "java.lang.NullPointerException",
    supertypes := ["java.lang.RuntimeException"] },
  { fqn := "java.lang.UnsupportedOperationException",
    supertypes := ["java.lang.RuntimeException"] },
  { fqn := "java.lang.IndexOutOfBoundsException",
    supertypes := ["java.lang.RuntimeException"] },
  { fqn := "java.lang.ArithmeticException",
    supertypes := ["java.lang.RuntimeException"] },
  { fqn := "java.lang.InterruptedException",
    supertypes := ["java.lang.Exception"] },
  { fqn := "java.io.IOException",
    supertypes := ["java.lang.Exception"] },
  { fqn := "java.io.UncheckedIOException",
    supertypes := ["java.lang.RuntimeException"] },
  { fqn := "java.lang.Runnable",
    kind := .interface,
    functional := true,
    methods := [
      { name := "run" }] },
  { fqn := "java.util.concurrent.Callable",
    kind := .interface,
    functional := true,
    methods := [
      { name := "call", returns := "java.lang.Object" }] },
  { fqn := "java.util.function.Supplier",
    kind := .interface,
    functional := true,
    methods := [
      { name := "get", returns := "java.lang.Object" }] },
  { fqn := "java.util.function.Function",
    kind := .interface,
    functional := true,
    methods := [
      { name := "apply", params := ["java.lang.Object"], returns := "java.lang.Object" }] },
  { fqn := "java.util.function.BiFunction",
    kind := .interface,
    functional := true,
    methods := [
      { name := "apply", params := ["java.lang.Object", "java.lang.Object"],
        returns := "java.lang.Object" }] },
  { fqn := "java.util.function.Consumer",
    kind := .interface,
    functional := true,
    methods := [
      { name := "accept", params := ["java.lang.Object"] }] },
  { fqn := "java.util.function.Predicate",
    kind := .interface,
    functional := true,
    methods := [
      { name := "test", params := ["java.lang.Object"], returns := "boolean" }] },
  { fqn := "java.util.Comparator",
    kind := .interface,
    functional := true,
    methods := [
      { name := "compare", params := ["java.lang.Object", "java.lang.Object"], returns := "int" },
      { name := "naturalOrder", returns := "java.util.Comparator", isStatic := true },
      { name := "reversed", returns := "java.util.Comparator" }] },
  { fqn := "java.lang.Iterable",
    kind := .interface,
    methods := [
      { name := "iterator", returns := "java.util.Iterator" },
      { name := "forEach", params := ["java.util.function.Consumer"] }] },
  { fqn := "java.util.Iterator",
    kind := .interface,
    methods := [
      { name := "hasNext", returns := "boolean" },
      { name := "next", returns := "java.lang.Object" }] },
  { fqn := "java.util.Collection",
    kind := .interface,
    supertypes := ["java.lang.Iterable"],
    methods := [
      { name := "size", returns := "int" },
      { name := "isEmpty", returns := "boolean" },
      { name := "contains", params := ["java.lang.Object"], returns := "boolean" },
      { name := "add", params := ["java.lang.Object"], returns := "boolean" },
      { name := "addAll", params := ["java.util.Collection"], returns := "boolean" },
      { name := "remove", params := ["java.lang.Object"], returns := "boolean" },
      { name := "clear" },
      { name := "stream", returns := "java.util.stream.Stream" },
      { name := "toArray", returns := "java.lang.Object[]" }] },
  { fqn := "java.util.List",
    kind := .interface,
    supertypes := ["java.util.Collection"],
    methods := [
      { name := "get", params := ["int"], returns := "java.lang.Object" },
      { name := "set", params := ["int", "java.lang.Object"], returns := "java.lang.Object" },
      { name := "remove", params := ["int"], returns := "java.lang.Object" },
      { name := "indexOf", params := ["java.lang.Object"], returns := "int" },
      { name := "subList", params := ["int", "int"], returns := "java.util.List" },
      { name := "of", returns := "java.util.List", isStatic := true },
      { name := "of", params := ["java.lang.Object[]"], returns := "java.util.List",
        isStatic := true, varargs := true },
      { name := "copyOf", params := ["java.util.Collection"], returns := "java.util.List",
        isStatic := true }] },
  { fqn := "java.util.ArrayList",
    supertypes := ["java.util.List", "java.lang.Cloneable", "java.io.Serializable"] },
  { fqn := "java.util.LinkedList",
    supertypes := ["java.util.List", "java.lang.Cloneable", "java.io.Serializable"] },
  { fqn := "java.util.Set",
    kind := .interface,
    supertypes := ["java.util.Collection"],
    methods := [
      { name := "of", params := ["java.lang.Object[]"], returns := "java.util.Set",
        isStatic := true, varargs := true }] },
  { fqn := "java.util.HashSet",
    supertypes := ["java.util.Set", "java.lang.Cloneable", "java.io.Serializable"] },
  { fqn := "java.util.Map",
    kind := .interface,
    methods := [
      { name := "get", params := ["java.lang.Object"], returns := "java.lang.Object" },
      { name := "put", params := ["java.lang.Object", "java.lang.Object"],
        returns := "java.lang.Object" },
      { name := "containsKey", params := ["java.lang.Object"], returns := "boolean" },
      { name := "size", returns := "int" },
      { name := "isEmpty", returns := "boolean" },
      { name := "keySet", returns := "java.util.Set" },
      { name := "values", returns := "java.util.Collection" },
      { name := "of", returns := "java.util.Map", isStatic := true },
      { name := "of", params := ["java.lang.Object", "java.lang.Object"],
        returns := "java.util.Map", isStatic := true }] },
  { fqn := "java.util.HashMap",
    supertypes := ["java.util.Map", "java.lang.Cloneable", "java.io.Serializable"] },
  { fqn := "java.util.Arrays",
    methods := [
      { name := "asList", params := ["java.lang.Object[]"], returns := "java.util.List",
        isStatic := true, varargs := true },
      { name := "toString", params := ["int[]"], returns := "java.lang.String", isStatic := true },
      { name := "toString", params := ["long[]"], returns := "java.lang.String",
        isStatic := true },
      { name := "toString", params := ["double[]"], returns := "java.lang.String",
        isStatic := true },
      { name := "toString", params := ["java.lang.Object[]"], returns := "java.lang.String",
        isStatic := true },
      { name := "equals", params := ["int[]", "int[]"], returns := "boolean", isStatic := true },
      { name := "equals", params := ["java.lang.Object[]", "java.lang.Object[]"],
        returns := "boolean", isStatic := true },
      { name := "sort", params := ["int[]"], isStatic := true },
      { name := "sort", params := ["java.lang.Object[]"], isStatic := true },
      { name := "fill", params := ["int[]", "int"], isStatic := true },
      { name := "copyOf", params := ["int[]", "int"], returns := "int[]", isStatic := true },
      { name := "stream", params := ["java.lang.Object[]"], returns := "java.util.stream.Stream",
        isStatic := true }] },
  { fqn := "java.util.Collections",
    methods := [
      { name := "emptyList", returns := "java.util.List", isStatic := true },
      { name := "emptyMap", returns := "java.util.Map", isStatic := true },
      { name := "singletonList", params := ["java.lang.Object"], returns := "java.util.List",
        isStatic := true },
      { name := "unmodifiableList", params := ["java.util.List"], returns := "java.util.List",
        isStatic := true },
      { name := "sort", params := ["java.util.List"], isStatic := true }] },
  { fqn := "java.util.Objects",
    methods := [
      { name := "equals", params := ["java.lang.Object", "java.lang.Object"],
        returns := "boolean", isStatic := true },
      { name := "requireNonNull", params := ["java.lang.Object"], returns := "java.lang.Object",
        isStatic := true },
      { name := "isNull", params := ["java.lang.Object"], returns := "boolean", isStatic := true },
      { name := "hash", params := ["java.lang.Object[]"], returns := "int", isStatic := true,
        varargs := true }] },
  { fqn := "java.util.Optional",
    methods := [
      { name := "of", params := ["java.lang.Object"], returns := "java.util.Optional",
        isStatic := true },
      { name := "ofNullable", params := ["java.lang.Object"], returns := "java.util.Optional",
        isStatic := true },
      { name := "empty", returns := "java.util.Optional", isStatic := true },
      { name := "isPresent", returns := "boolean" },
      { name := "isEmpty", returns := "boolean" },
      { name := "get", returns := "java.lang.Object" },
      { name := "orElse", params := ["java.lang.Object"], returns := "java.lang.Object" }] },
  { fqn := "java.util.UUID",
    supertypes := ["java.io.Serializable", "java.lang.Comparable"],
    methods := [
      { name := "randomUUID", returns := "java.util.UUID", isStatic := true },
      { name := "fromString", params := ["java.lang.String"], returns := "java.util.UUID",
        isStatic := true }] },
  { fqn := "java.util.Date",
    supertypes := ["java.io.Serializable", "java.lang.Cloneable", "java.lang.Comparable"],
    methods := [
      { name := "getTime", returns := "long" }] },
  { fqn := "java.util.Calendar",
    supertypes := ["java.io.Serializable", "java.lang.Cloneable", "java.lang.Comparable"],
    methods := [
      { name := "getInstance", returns := "java.util.Calendar", isStatic := true },
      { name := "get", params := ["int"], returns := "int" },
      { name := "set", params := ["int", "int"] },
      { name := "getTime", returns := "java.util.Date" }],
    fields := [
      { name := "YEAR", type := "int", isStatic := true },
      { name := "MONTH", type := "int", isStatic := true },
      { name := "DAY_OF_MONTH", type := "int", isStatic := true }] },
  { fqn := "java.util.stream.Stream",
    kind := .interface,
    methods := [
      { name := "map", params := ["java.util.function.Function"],
        returns := "java.util.stream.Stream" },
      { name := "filter", params := ["java.util.function.Predicate"],
        returns := "java.util.stream.Stream" },
      { name := "forEach", params := ["java.util.function.Consumer"] },
      { name := "count", returns := "long" },
      { name := "toList", returns := "java.util.List" },
      { name := "collect", params := ["java.util.stream.Collector"],
        returns := "java.lang.Object" },
      { name := "of", params := ["java.lang.Object[]"], returns := "java.util.stream.Stream",
        isStatic := true, varargs := true }] },
  { fqn := "java.util.stream.Collector",
    kind := .interface },
  { fqn := "java.util.stream.Collectors",
    methods := [
      { name := "toList", returns := "java.util.stream.Collector", isStatic := true },
      { name := "toSet", returns := "java.util.stream.Collector", isStatic := true },
      { name := "joining", params := ["java.lang.CharSequence"],
        returns := "java.util.stream.Collector", isStatic := true }] },
  { fqn := "java.time.Duration",
    supertypes := ["java.lang.Comparable", "java.io.Serializable"],
    methods := [
      { name := "ofMillis", params := ["long"], returns := "java.time.Duration",
        isStatic := true },
      { name := "ofSeconds", params := ["long"], returns := "java.time.Duration",
        isStatic := true },
      { name := "toMillis", returns := "long" }] },
  { fqn := "java.time.LocalDate",
    supertypes := ["java.lang.Comparable", "java.io.Serializable"],
    methods := [
      { name := "of", params := ["int", "int", "int"], returns := "java.time.LocalDate",
        isStatic := true },
      { name := "now", returns := "java.time.LocalDate", isStatic := true },
      { name := "plusDays", params := ["long"], returns := "java.time.LocalDate" }] },
  { fqn := "java.io.File",
    supertypes := ["java.io.Serializable", "java.lang.Comparable"],
    methods := [
      { name := "getName", returns := "java.lang.String" },
      { name := "getPath", returns := "java.lang.String" },
      { name := "exists", returns := "boolean" },
      { name := "delete", returns := "boolean" }] }]

end Retouch.Resource
