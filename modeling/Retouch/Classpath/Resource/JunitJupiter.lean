import Retouch.Classpath.Stub

/-!
# JUnit Jupiter 5.9

The assertions, annotations and executables of the Jupiter API.
-/

namespace Retouch.Resource

/-- The assertions, annotations and executables of the Jupiter API. -/
def junitJupiter : List TypeStub := [
  { fqn := "org.junit.jupiter.api.Test",
    kind := .annotationType },
  { fqn := "org.junit.jupiter.api.BeforeEach",
    kind := .annotationType },
  { fqn := "org.junit.jupiter.api.AfterEach",
    kind := .annotationType },
  { fqn := "org.junit.jupiter.api.BeforeAll",
    kind := .annotationType },
  { fqn := "org.junit.jupiter.api.AfterAll",
    kind := .annotationType },
  { fqn := "org.junit.jupiter.api.Disabled",
    kind := .annotationType },
  { fqn := "org.junit.jupiter.api.DisplayName",
    kind := .annotationType },
  { fqn := "org.junit.jupiter.api.Nested",
    kind := .annotationType },
  { fqn := "org.junit.jupiter.api.Tag",
    kind := .annotationType },
  { fqn := "org.junit.jupiter.api.Timeout",
    kind := .annotationType },
  { fqn := "org.junit.jupiter.api.extension.ExtendWith",
    kind := .annotationType },
  { fqn := "org.junit.jupiter.api.extension.Extension",
    kind := .interface },
  { fqn := "org.junit.jupiter.api.TestInfo",
    kind := .interface,
    methods := [
      { name := "getDisplayName", returns := "java.lang.String" }] },
  { fqn := "org.junit.jupiter.api.function.Executable",
    kind := .interface,
    functional := true,
    methods := [
      { name := "execute" }] },
  { fqn := "org.junit.jupiter.api.function.ThrowingSupplier",
    kind := .interface,
    functional := true,
    methods := [
      { name := "get", returns := "java.lang.Object" }] },
  { fqn := "org.junit.jupiter.api.Assumptions",
    methods := [
      { name := "assumeTrue", params := ["boolean"], isStatic := true },
      { name := "assumeTrue", params := ["boolean", "java.lang.String"], isStatic := true },
      { name := "assumeFalse", params := ["boolean"], isStatic := true }] },
  { fqn := "org.junit.jupiter.api.Assertions",
    methods := [
      { name := "assertEquals", params := ["short", "short"], isStatic := true },
      { name := "assertEquals", params := ["short", "short", "java.lang.String"],
        isStatic := true },
      { name := "assertEquals", params := ["short", "short", "java.util.function.Supplier"],
        isStatic := true },
      { name := "assertEquals", params := ["byte", "byte"], isStatic := true },
      { name := "assertEquals", params := ["byte", "byte", "java.lang.String"], isStatic := true },
      { name := "assertEquals", params := ["byte", "byte", "java.util.function.Supplier"],
        isStatic := true },
      { name := "assertEquals", params := ["int", "int"], isStatic := true },
      { name := "assertEquals", params := ["int", "int", "java.lang.String"], isStatic := true },
      { name := "assertEquals", params := ["int", "int", "java.util.function.Supplier"],
        isStatic := true },
      { name := "assertEquals", params := ["int", "java.lang.Integer"], isStatic := true },
      { name := "assertEquals", params := ["java.lang.Integer", "int"], isStatic := true },
      { name := "assertEquals", params := ["java.lang.Integer", "java.lang.Integer"],
        isStatic := true },
      { name := "assertEquals", params := ["long", "long"], isStatic := true },
      { name := "assertEquals", params := ["long", "long", "java.lang.String"], isStatic := true },
      { name := "assertEquals", params := ["long", "long", "java.util.function.Supplier"],
        isStatic := true },
      { name := "assertEquals", params := ["long", "java.lang.Long"], isStatic := true },
      { name := "assertEquals", params := ["java.lang.Long", "long"], isStatic := true },
      { name := "assertEquals", params := ["java.lang.Long", "java.lang.Long"], isStatic := true },
      { name := "assertEquals", params := ["char", "char"], isStatic := true },
      { name := "assertEquals", params := ["char", "char", "java.lang.String"], isStatic := true },
      { name := "assertEquals", params := ["char", "char", "java.util.function.Supplier"],
        isStatic := true },
      { name := "assertEquals", params := ["float", "float"], isStatic := true },
      { name := "assertEquals", params := ["float", "float", "java.lang.String"],
        isStatic := true },
      { name := "assertEquals", params := ["float", "float", "java.util.function.Supplier"],
        isStatic := true },
      { name := "assertEquals", params := ["float", "float", "float"], isStatic := true },
      { name := "assertEquals", params := ["float", "float", "float", "java.lang.String"],
        isStatic := true },
      { name := "assertEquals",
        params := ["float", "float", "float", "java.util.function.Supplier"], isStatic := true },
      { name := "assertEquals", params := ["double", "double"], isStatic := true },
      { name := "assertEquals", params := ["double", "double", "java.lang.String"],
        isStatic := true },
      { name := "assertEquals", params := ["double", "double", "java.util.function.Supplier"],
        isStatic := true },
      { name := "assertEquals", params := ["double", "java.lang.Double"], isStatic := true },
      { name := "assertEquals", params := ["java.lang.Double", "double"], isStatic := true },
      { name := "assertEquals", params := ["java.lang.Double", "java.lang.Double"],
        isStatic := true },
      { name := "assertEquals", params := ["double", "double", "double"], isStatic := true },
      { name := "assertEquals", params := ["double", "double", "double", "java.lang.String"],
        isStatic := true },
      { name := "assertEquals",
        params := ["double", "double", "double", "java.util.function.Supplier"],
        isStatic := true },
      { name := "assertEquals", params := ["java.lang.Object", "java.lang.Object"],
        isStatic := true },
      { name := "assertEquals",
        params := ["java.lang.Object", "java.lang.Object", "java.lang.String"], isStatic := true },
      { name := "assertEquals",
        params := ["java.lang.Object", "java.lang.Object", "java.util.function.Supplier"],
        isStatic := true },
      { name := "assertArrayEquals", params := ["boolean[]", "boolean[]"], isStatic := true },
      { name := "assertArrayEquals", params := ["boolean[]", "boolean[]", "java.lang.String"],
        isStatic := true },
      { name := "assertArrayEquals",
        params := ["boolean[]", "boolean[]", "java.util.function.Supplier"], isStatic := true },
      { name := "assertArrayEquals", params := ["char[]", "char[]"], isStatic := true },
      { name := "assertArrayEquals", params := ["char[]", "char[]", "java.lang.String"],
        isStatic := true },
      { name := "assertArrayEquals",
        params := ["char[]", "char[]", "java.util.function.Supplier"], isStatic := true },
      { name := "assertArrayEquals", params := ["byte[]", "byte[]"], isStatic := true },
      { name := "assertArrayEquals", params := ["byte[]", "byte[]", "java.lang.String"],
        isStatic := true },
      { name := "assertArrayEquals",
        params := ["byte[]", "byte[]", "java.util.function.Supplier"], isStatic := true },
      { name := "assertArrayEquals", params := ["short[]", "short[]"], isStatic := true },
      { name := "assertArrayEquals", params := ["short[]", "short[]", "java.lang.String"],
        isStatic := true },
      { name := "assertArrayEquals",
        params := ["short[]", "short[]", "java.util.function.Supplier"], isStatic := true },
      { name := "assertArrayEquals", params := ["int[]", "int[]"], isStatic := true },
      { name := "assertArrayEquals", params := ["int[]", "int[]", "java.lang.String"],
        isStatic := true },
      { name := "assertArrayEquals", params := ["int[]", "int[]", "java.util.function.Supplier"],
        isStatic := true },
      { name := "assertArrayEquals", params := ["long[]", "long[]"], isStatic := true },
      { name := "assertArrayEquals", params := ["long[]", "long[]", "java.lang.String"],
        isStatic := true },
      { name := "assertArrayEquals",
        params := ["long[]", "long[]", "java.util.function.Supplier"], isStatic := true },
      { name := "assertArrayEquals", params := ["float[]", "float[]"], isStatic := true },
      { name := "assertArrayEquals", params := ["float[]", "float[]", "java.lang.String"],
        isStatic := true },
      { name := "assertArrayEquals",
        params := ["float[]", "float[]", "java.util.function.Supplier"], isStatic := true },
      { name := "assertArrayEquals", params := ["float[]", "float[]", "float"], isStatic := true },
      { name := "assertArrayEquals",
        params := ["float[]", "float[]", "float", "java.lang.String"], isStatic := true },
      { name := "assertArrayEquals",
        params := ["float[]", "float[]", "float", "java.util.function.Supplier"],
        isStatic := true },
      { name := "assertArrayEquals", params := ["double[]", "double[]"], isStatic := true },
      { name := "assertArrayEquals", params := ["double[]", "double[]", "java.lang.String"],
        isStatic := true },
      { name := "assertArrayEquals",
        params := ["double[]", "double[]", "java.util.function.Supplier"], isStatic := true },
      { name := "assertArrayEquals", params := ["double[]", "double[]", "double"],
        isStatic := true },
      { name := "assertArrayEquals",
        params := ["double[]", "double[]", "double", "java.lang.String"], isStatic := true },
      { name := "assertArrayEquals",
        params := ["double[]", "double[]", "double", "java.util.function.Supplier"],
        isStatic := true },
      { name := "assertArrayEquals", params := ["java.lang.Object[]", "java.lang.Object[]"],
        isStatic := true },
      { name := "assertArrayEquals",
        params := ["java.lang.Object[]", "java.lang.Object[]", "java.lang.String"],
        isStatic := true },
      { name := "assertArrayEquals",
        params := ["java.lang.Object[]", "java.lang.Object[]", "java.util.function.Supplier"],
        isStatic := true },
      { name := "assertNotEquals", params := ["java.lang.Object", "java.lang.Object"],
        isStatic := true },
      { name := "assertNotEquals",
        params := ["java.lang.Object", "java.lang.Object", "java.lang.String"], isStatic := true },
      { name := "assertNotEquals", params := ["int", "int"], isStatic := true },
      { name := "assertNotEquals", params := ["long", "long"], isStatic := true },
      { name := "assertNotEquals", params := ["double", "double"], isStatic := true },
      { name := "assertTrue", params := ["boolean"], isStatic := true },
      { name := "assertTrue", params := ["boolean", "java.lang.String"], isStatic := true },
      { name := "assertTrue", params := ["boolean", "java.util.function.Supplier"],
        isStatic := true },
      { name := "assertFalse", params := ["boolean"], isStatic := true },
      { name := "assertFalse", params := ["boolean", "java.lang.String"], isStatic := true },
      { name := "assertFalse", params := ["boolean", "java.util.function.Supplier"],
        isStatic := true },
      { name := "assertNull", params := ["java.lang.Object"], isStatic := true },
      { name := "assertNull", params := ["java.lang.Object", "java.lang.String"],
        isStatic := true },
      { name := "assertNotNull", params := ["java.lang.Object"], isStatic := true },
      { name := "assertNotNull", params := ["java.lang.Object", "java.lang.String"],
        isStatic := true },
      { name := "assertSame", params := ["java.lang.Object", "java.lang.Object"],
        isStatic := true },
      { name := "assertSame",
        params := ["java.lang.Object", "java.lang.Object", "java.lang.String"], isStatic := true },
      { name := "assertNotSame", params := ["java.lang.Object", "java.lang.Object"],
        isStatic := true },
      { name := "assertThrows",
        params := ["java.lang.Class", "org.junit.jupiter.api.function.Executable"],
        returns := "java.lang.Throwable", isStatic := true },
      { name := "assertThrows",
        params := ["java.lang.Class", "org.junit.jupiter.api.function.Executable", "java.lang.String"],
        returns := "java.lang.Throwable", isStatic := true },
      { name := "assertDoesNotThrow", params := ["org.junit.jupiter.api.function.Executable"],
        isStatic := true },
      { name := "assertAll", params := ["org.junit.jupiter.api.function.Executable[]"],
        isStatic := true, varargs := true },
      { name := "assertAll",
        params := ["java.lang.String", "org.junit.jupiter.api.function.Executable[]"],
        isStatic := true, varargs := true },
      { name := "fail", returns := "java.lang.Object", isStatic := true },
      { name := "fail", params := ["java.lang.String"], returns := "java.lang.Object",
        isStatic := true },
      { name := "fail", params := ["java.lang.String", "java.lang.Throwable"],
        returns := "java.lang.Object", isStatic := true }] }]

end Retouch.Resource
