import Reify.Json.Reader

/-!
# Calling conventions
-/

namespace Reify

/-- The calling conventions that a function type may carry. -/
inductive CallingConv where
  | c
  | x86StdCall
  | x86FastCall
  | x86ThisCall
  | x86VectorCall
  | x86Pascal
  | x86RegCall
  | win64
  | x86_64SysV
  | aapcs
  | aapcsVfp
  | aarch64VectorCall
  | swift
  | preserveMost
  | preserveAll
deriving DecidableEq, Repr

namespace CallingConv

/-- The name of a convention in a dump and in messages. -/
def name : CallingConv → String
  | .c => "C"
  | .x86StdCall => "X86StdCall"
  | .x86FastCall => "X86FastCall"
  | .x86ThisCall => "X86ThisCall"
  | .x86VectorCall => "X86VectorCall"
  | .x86Pascal => "X86Pascal"
  | .x86RegCall => "X86RegCall"
  | .win64 => "Win64"
  | .x86_64SysV => "X86_64SysV"
  | .aapcs => "Aapcs"
  | .aapcsVfp => "AapcsVfp"
  | .aarch64VectorCall => "AArch64VectorCall"
  | .swift => "Swift"
  | .preserveMost => "PreserveMost"
  | .preserveAll => "PreserveAll"

/-- Every convention. -/
def all : List CallingConv :=
  [.c, .x86StdCall, .x86FastCall, .x86ThisCall, .x86VectorCall, .x86Pascal, .x86RegCall, .win64,
    .x86_64SysV, .aapcs, .aapcsVfp, .aarch64VectorCall, .swift, .preserveMost, .preserveAll]

/-- The token of a convention. Only three conventions have one. -/
def token? : CallingConv → Option String
  | .c => some "CC_C"
  | .win64 => some "CC_MsAbi"
  | .x86RegCall => some "CC_RegCall"
  | _ => none

/-- The convention as it stands in a dump. -/
def toJson (cc : CallingConv) : Json := .text cc.name

/-- The convention that a value of a dump gives. -/
def ofJson? : Nat → Json → Option CallingConv := Json.choice? all name

end CallingConv

end Reify
