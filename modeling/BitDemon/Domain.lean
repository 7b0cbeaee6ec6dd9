import Mathlib.Data.List.Basic

set_option autoImplicit false

namespace BitDemon

inductive Title where
  | iw4 | iw5 | t5 | t6Xenon | t6Ps3 | t6Pc | t6WiiU
  deriving DecidableEq, Repr

def Title.toU32 : Title → UInt32
  | .iw4 => 2010
  | .iw5 => 18409
  | .t5 => 18301
  | .t6Xenon => 18395
  | .t6Ps3 => 18396
  | .t6Pc => 18397
  | .t6WiiU => 18480

def Title.all : List Title := [.iw4, .iw5, .t5, .t6Xenon, .t6Ps3, .t6Pc, .t6WiiU]

def Title.fromU32 (titleId : UInt32) : Option Title :=
  Title.all.find? (fun title => title.toU32 == titleId)

@[simp] theorem Title.fromU32_toU32 (title : Title) : Title.fromU32 title.toU32 = some title := by
  cases title <;> rfl

theorem Title.toU32_of_fromU32 {titleId : UInt32} {title : Title}
    (known : Title.fromU32 titleId = some title) : title.toU32 = titleId := by
  simpa using List.find?_some known

theorem Title.toU32_inj {a b : Title} (same : a.toU32 = b.toU32) : a = b := by
  have here := congrArg Title.fromU32 same
  simpa using here

abbrev SessionId := UInt64

structure SessionAuthentication where
  userId : UInt64
  username : String
  sessionKey : List UInt8
  title : Title
  deriving DecidableEq

end BitDemon
