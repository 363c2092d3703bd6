import Retouch.Classpath.Stub

/-!
# JUnit 4.13

The assertions, annotations and runners of JUnit 4.
-/

namespace Retouch.Resource

/-- The assertions, annotations and runners of JUnit 4. -/
def junit4 : List TypeStub := [
  { fqn := "org.junit.Test",
    kind := .annotationType },
  { fqn := "org.junit.Before",
    kind := .annotationType },
  { fqn := "org.junit.After",
    kind := .annotationType },
  { fqn := "org.junit.BeforeClass",
    kind := .annotationType },
  { fqn := "org.junit.AfterClass",
    kind := .annotationType },
  { fqn := "org.junit.Ignore",
    kind := .annotationType },
  { fqn := "org.junit.Rule",
    kind := .annotationType },
  { fqn := "org.junit.ClassRule",
    kind := .annotationType },
  { fqn := "org.junit.Assert",
    methods := [
      { name := "assertEquals", params := ["java.lang.Object", "java.lang.Object"],
        isStatic := true },
      { name := "assertEquals",
        params := ["java.lang.String", "java.lang.Object", "java.lang.Object"], isStatic := true },
      { name := "assertEquals", params := ["long", "long"], isStatic := true },
      { name := "assertEquals", params := ["java.lang.String", "long", "long"], isStatic := true },
      { name := "assertEquals", params := ["double", "double", "double"], isStatic := true },
      { name := "assertEquals", params := ["java.lang.String", "double", "double", "double"],
        isStatic := true },
      { name := "assertEquals", params := ["float", "float", "float"], isStatic := true },
      { name := "assertEquals", params := ["java.lang.String", "float", "float", "float"],
        isStatic := true },
      { name := "assertArrayEquals", params := ["java.lang.Object[]", "java.lang.Object[]"],
        isStatic := true },
      { name := "assertArrayEquals",
        params := ["java.lang.String", "java.lang.Object[]", "java.lang.Object[]"],
        isStatic := true },
      { name := "assertArrayEquals", params := ["int[]", "int[]"], isStatic := true },
      { name := "assertArrayEquals", params := ["java.lang.String", "int[]", "int[]"],
        isStatic := true },
      { name := "assertArrayEquals", params := ["long[]", "long[]"], isStatic := true },
      { name := "assertArrayEquals", params := ["double[]", "double[]", "double"],
        isStatic := true },
      { name := "assertArrayEquals",
        params := ["java.lang.String", "double[]", "double[]", "double"], isStatic := true },
      { name := "assertArrayEquals", params := ["float[]", "float[]", "float"], isStatic := true },
      { name := "assertTrue", params := ["boolean"], isStatic := true },
      { name := "assertTrue", params := ["java.lang.String", "boolean"], isStatic := true },
      { name := "assertFalse", params := ["boolean"], isStatic := true },
      { name := "assertFalse", params := ["java.lang.String", "boolean"], isStatic := true },
      { name := "assertNull", params := ["java.lang.Object"], isStatic := true },
      { name := "assertNull", params := ["java.lang.String", "java.lang.Object"],
        isStatic := true },
      { name := "assertNotNull", params := ["java.lang.Object"], isStatic := true },
      { name := "assertNotNull", params := ["java.lang.String", "java.lang.Object"],
        isStatic := true },
      { name := "assertSame", params := ["java.lang.Object", "java.lang.Object"],
        isStatic := true },
      { name := "fail", isStatic := true },
      { name := "fail", params := ["java.lang.String"], isStatic := true }] },
  { fqn := "org.junit.runner.RunWith",
    kind := .annotationType },
  { fqn := "org.junit.runner.Runner" },
  { fqn := "org.junit.runners.ParentRunner",
    supertypes := ["org.junit.runner.Runner"] },
  { fqn := "org.junit.runners.BlockJUnit4ClassRunner",
    supertypes := ["org.junit.runners.ParentRunner"] },
  { fqn := "org.junit.runners.JUnit4",
    supertypes := ["org.junit.runners.BlockJUnit4ClassRunner"] },
  { fqn := "org.junit.runners.Suite",
    supertypes := ["org.junit.runners.ParentRunner"] },
  { fqn := "org.junit.runners.Parameterized",
    supertypes := ["org.junit.runners.Suite"] },
  { fqn := "org.junit.runners.Parameterized.Parameters",
    kind := .annotationType },
  { fqn := "org.junit.rules.TestRule",
    kind := .interface },
  { fqn := "org.junit.rules.TemporaryFolder",
    supertypes := ["org.junit.rules.TestRule"],
    methods := [
      { name := "newFile", params := ["java.lang.String"], returns := "java.io.File" },
      { name := "getRoot", returns := "java.io.File" }] }]

end Retouch.Resource
