import Retouch.Classpath.Stub

/-!
# Mockito 5

The stubbing and verification API of Mockito.
-/

namespace Retouch.Resource

/-- The stubbing and verification API of Mockito. -/
def mockito : List TypeStub := [
  { fqn := "org.mockito.ArgumentMatchers",
    methods := [
      { name := "any", returns := "java.lang.Object", isStatic := true },
      { name := "any", params := ["java.lang.Class"], returns := "java.lang.Object",
        isStatic := true },
      { name := "anyString", returns := "java.lang.String", isStatic := true },
      { name := "anyInt", returns := "int", isStatic := true },
      { name := "anyLong", returns := "long", isStatic := true },
      { name := "anyDouble", returns := "double", isStatic := true },
      { name := "anyBoolean", returns := "boolean", isStatic := true },
      { name := "anyList", returns := "java.util.List", isStatic := true },
      { name := "anyMap", returns := "java.util.Map", isStatic := true },
      { name := "eq", params := ["java.lang.Object"], returns := "java.lang.Object",
        isStatic := true },
      { name := "eq", params := ["int"], returns := "int", isStatic := true },
      { name := "eq", params := ["long"], returns := "long", isStatic := true },
      { name := "eq", params := ["double"], returns := "double", isStatic := true },
      { name := "eq", params := ["boolean"], returns := "boolean", isStatic := true },
      { name := "isNull", returns := "java.lang.Object", isStatic := true },
      { name := "notNull", returns := "java.lang.Object", isStatic := true },
      { name := "isA", params := ["java.lang.Class"], returns := "java.lang.Object",
        isStatic := true },
      { name := "argThat", params := ["org.mockito.ArgumentMatcher"],
        returns := "java.lang.Object", isStatic := true },
      { name := "contains", params := ["java.lang.String"], returns := "java.lang.String",
        isStatic := true }] },
  { fqn := "org.mockito.ArgumentMatcher",
    kind := .interface,
    functional := true,
    methods := [
      { name := "matches", params := ["java.lang.Object"], returns := "boolean" }] },
  { fqn := "org.mockito.Mockito",
    supertypes := ["org.mockito.ArgumentMatchers"],
    methods := [
      { name := "mock", params := ["java.lang.Class"], returns := "java.lang.Object",
        isStatic := true },
      { name := "mock", params := ["java.lang.Class", "java.lang.String"],
        returns := "java.lang.Object", isStatic := true },
      { name := "mock", params := ["java.lang.Class", "org.mockito.stubbing.Answer"],
        returns := "java.lang.Object", isStatic := true },
      { name := "spy", params := ["java.lang.Class"], returns := "java.lang.Object",
        isStatic := true },
      { name := "spy", params := ["java.lang.Object"], returns := "java.lang.Object",
        isStatic := true },
      { name := "when", params := ["java.lang.Object"],
        returns := "org.mockito.stubbing.OngoingStubbing", isStatic := true },
      { name := "verify", params := ["java.lang.Object"], returns := "java.lang.Object",
        isStatic := true },
      { name := "verify",
        params := ["java.lang.Object", "org.mockito.verification.VerificationMode"],
        returns := "java.lang.Object", isStatic := true },
      { name := "reset", params := ["java.lang.Object[]"], isStatic := true, varargs := true },
      { name := "verifyNoMoreInteractions", params := ["java.lang.Object[]"], isStatic := true,
        varargs := true },
      { name := "verifyNoInteractions", params := ["java.lang.Object[]"], isStatic := true,
        varargs := true },
      { name := "times", params := ["int"],
        returns := "org.mockito.verification.VerificationMode", isStatic := true },
      { name := "never", returns := "org.mockito.verification.VerificationMode",
        isStatic := true },
      { name := "atLeastOnce", returns := "org.mockito.verification.VerificationMode",
        isStatic := true },
      { name := "atLeast", params := ["int"],
        returns := "org.mockito.verification.VerificationMode", isStatic := true },
      { name := "atMost", params := ["int"],
        returns := "org.mockito.verification.VerificationMode", isStatic := true },
      { name := "only", returns := "org.mockito.verification.VerificationMode", isStatic := true },
      { name := "calls", params := ["int"],
        returns := "org.mockito.verification.VerificationMode", isStatic := true },
      { name := "timeout", params := ["long"],
        returns := "org.mockito.verification.VerificationWithTimeout", isStatic := true },
      { name := "after", params := ["long"],
        returns := "org.mockito.verification.VerificationAfterDelay", isStatic := true },
      { name := "doReturn", params := ["java.lang.Object"],
        returns := "org.mockito.stubbing.Stubber", isStatic := true },
      { name := "doThrow", params := ["java.lang.Class"],
        returns := "org.mockito.stubbing.Stubber", isStatic := true },
      { name := "doThrow", params := ["java.lang.Throwable[]"],
        returns := "org.mockito.stubbing.Stubber", isStatic := true, varargs := true },
      { name := "doNothing", returns := "org.mockito.stubbing.Stubber", isStatic := true },
      { name := "doAnswer", params := ["org.mockito.stubbing.Answer"],
        returns := "org.mockito.stubbing.Stubber", isStatic := true },
      { name := "doCallRealMethod", returns := "org.mockito.stubbing.Stubber", isStatic := true },
      { name := "inOrder", params := ["java.lang.Object[]"], returns := "org.mockito.InOrder",
        isStatic := true, varargs := true },
      { name := "ignoreStubs", params := ["java.lang.Object[]"], returns := "java.lang.Object[]",
        isStatic := true, varargs := true },
      { name := "mockingDetails", params := ["java.lang.Object"],
        returns := "org.mockito.MockingDetails", isStatic := true }] },
  { fqn := "org.mockito.BDDMockito",
    supertypes := ["org.mockito.Mockito"],
    methods := [
      { name := "given", params := ["java.lang.Object"],
        returns := "org.mockito.BDDMockito.BDDMyOngoingStubbing", isStatic := true },
      { name := "then", params := ["java.lang.Object"], returns := "org.mockito.BDDMockito.Then",
        isStatic := true }] },
  { fqn := "org.mockito.BDDMockito.BDDMyOngoingStubbing",
    kind := .interface,
    methods := [
      { name := "willReturn", params := ["java.lang.Object"], returns := "SELF" },
      { name := "willThrow", params := ["java.lang.Throwable[]"], returns := "SELF",
        varargs := true }] },
  { fqn := "org.mockito.BDDMockito.Then",
    kind := .interface,
    methods := [
      { name := "should", returns := "java.lang.Object" },
      { name := "shouldHaveNoMoreInteractions" }] },
  { fqn := "org.mockito.stubbing.OngoingStubbing",
    kind := .interface,
    methods := [
      { name := "thenReturn", params := ["java.lang.Object"], returns := "SELF" },
      { name := "thenReturn", params := ["java.lang.Object", "java.lang.Object[]"],
        returns := "SELF", varargs := true },
      { name := "thenThrow", params := ["java.lang.Throwable[]"], returns := "SELF",
        varargs := true },
      { name := "thenThrow", params := ["java.lang.Class"], returns := "SELF" },
      { name := "thenAnswer", params := ["org.mockito.stubbing.Answer"], returns := "SELF" },
      { name := "thenCallRealMethod", returns := "SELF" }] },
  { fqn := "org.mockito.stubbing.Stubber",
    kind := .interface,
    methods := [
      { name := "when", params := ["java.lang.Object"], returns := "java.lang.Object" }] },
  { fqn := "org.mockito.stubbing.Answer",
    kind := .interface,
    functional := true,
    methods := [
      { name := "answer", params := ["org.mockito.invocation.InvocationOnMock"],
        returns := "java.lang.Object" }] },
  { fqn := "org.mockito.invocation.InvocationOnMock",
    kind := .interface,
    methods := [
      { name := "getArgument", params := ["int"], returns := "java.lang.Object" },
      { name := "getArguments", returns := "java.lang.Object[]" },
      { name := "getMock", returns := "java.lang.Object" }] },
  { fqn := "org.mockito.verification.VerificationMode",
    kind := .interface },
  { fqn := "org.mockito.verification.VerificationWithTimeout",
    kind := .interface,
    supertypes := ["org.mockito.verification.VerificationMode"],
    methods := [
      { name := "times", params := ["int"],
        returns := "org.mockito.verification.VerificationMode" }] },
  { fqn := "org.mockito.verification.VerificationAfterDelay",
    kind := .interface,
    supertypes := ["org.mockito.verification.VerificationMode"] },
  { fqn := "org.mockito.InOrder",
    kind := .interface,
    methods := [
      { name := "verify", params := ["java.lang.Object"], returns := "java.lang.Object" },
      { name := "verify",
        params := ["java.lang.Object", "org.mockito.verification.VerificationMode"],
        returns := "java.lang.Object" }] },
  { fqn := "org.mockito.MockingDetails",
    kind := .interface,
    methods := [
      { name := "isMock", returns := "boolean" },
      { name := "isSpy", returns := "boolean" }] },
  { fqn := "org.mockito.ArgumentCaptor",
    methods := [
      { name := "forClass", params := ["java.lang.Class"],
        returns := "org.mockito.ArgumentCaptor", isStatic := true },
      { name := "capture", returns := "java.lang.Object" },
      { name := "getValue", returns := "java.lang.Object" },
      { name := "getAllValues", returns := "java.util.List" }] },
  { fqn := "org.mockito.MockitoAnnotations",
    methods := [
      { name := "openMocks", params := ["java.lang.Object"],
        returns := "java.lang.AutoCloseable", isStatic := true },
      { name := "initMocks", params := ["java.lang.Object"], isStatic := true }] },
  { fqn := "org.mockito.Mock",
    kind := .annotationType },
  { fqn := "org.mockito.Spy",
    kind := .annotationType },
  { fqn := "org.mockito.InjectMocks",
    kind := .annotationType },
  { fqn := "org.mockito.Captor",
    kind := .annotationType },
  { fqn := "org.mockito.junit.MockitoJUnitRunner",
    supertypes := ["org.junit.runner.Runner"] },
  { fqn := "org.mockito.junit.MockitoJUnit",
    methods := [
      { name := "rule", returns := "org.mockito.junit.MockitoRule", isStatic := true }] },
  { fqn := "org.mockito.junit.MockitoRule",
    kind := .interface,
    supertypes := ["org.junit.rules.TestRule"] },
  { fqn := "org.mockito.junit.jupiter.MockitoExtension",
    supertypes := ["org.junit.jupiter.api.extension.Extension"] },
  { fqn := "org.mockito.junit.jupiter.MockitoSettings",
    kind := .annotationType }]

end Retouch.Resource
