import DocExamples.Console.Written
import DocExamples.Script.ErrorType

namespace DocExamples.Script

inductive Module
  | sys
  | os
  | path
  | json
  | asyncio
  | warnings
  deriving DecidableEq, Repr

open Console (Stream)

/-- Functions and types that scripts call by name or as members of modules. -/
inductive Function
  | print
  | str
  | repr
  | len
  | sum
  | int
  | range
  | exit
  | dumps
  | basename
  | sleep
  | simplefilter
  deriving DecidableEq, Repr

/-- Functions that belong to a value. -/
inductive Method
  | append
  | join
  | upper
  | write
  | flush
  | close
  deriving DecidableEq, Repr

/-- The integers from a first one up or down to a last one, which does not belong to them, in steps
that are not 0. -/
structure Range where
  start : Int
  stop : Int
  step : Int
  deriving DecidableEq, Repr

/-- A value; `tuple`, `list` and `dict` hold the number of a cell, as do the arguments of an error and
what a pause is made of. -/
inductive Value
  | none
  | bool (value : Bool)
  | int (value : Int)
  | str (value : Text)
  | tuple (cell : Nat)
  | list (cell : Nat)
  | dict (cell : Nat)
  | range (range : Range)
  | module (name : Module)
  | stream (name : Stream)
  | function (name : Function)
  | method (owner : Value) (name : Method)
  | errorType (type : ErrorType)
  | error (type : ErrorType) (arguments : Nat)
  | pause (arguments : Nat)
  deriving DecidableEq, Repr

inductive Cell
  | items (values : List Value)
  | entries (pairs : List (Value × Value))
  deriving DecidableEq, Repr

namespace Module

def importName : Module → String
  | sys => "sys"
  | os => "os"
  | path => "os.path"
  | json => "json"
  | asyncio => "asyncio"
  | warnings => "warnings"

def name : Module → String
  | path => "posixpath"
  | m => m.importName

def origin : Module → Option String
  | sys => some "built-in"
  | os | path => some "frozen"
  | json | asyncio | warnings => none

def isPackage : Module → Bool
  | json | asyncio => true
  | sys | os | path | warnings => false

def all : List Module := [sys, os, path, json, asyncio, warnings]

def ofImportName? (name : Text) : Option Module :=
  all.find? fun m => m.importName.toList == name

end Module

namespace Function

def name : Function → String
  | print => "print"
  | str => "str"
  | repr => "repr"
  | len => "len"
  | sum => "sum"
  | int => "int"
  | range => "range"
  | exit => "exit"
  | dumps => "dumps"
  | basename => "basename"
  | sleep => "sleep"
  | simplefilter => "simplefilter"

def isType : Function → Bool
  | str | int | range => true
  | _ => false

def isDefined : Function → Bool
  | dumps | basename | sleep | simplefilter => true
  | _ => false

end Function

def Method.name : Method → String
  | append => "list.append"
  | join => "str.join"
  | upper => "str.upper"
  | write => "StringIO.write"
  | flush => "_IOBase.flush"
  | close => "StringIO.close"

namespace Range

def length (range : Range) : Nat :=
  if 0 < range.step then ((range.stop - range.start + range.step - 1) / range.step).toNat
  else ((range.start - range.stop - range.step - 1) / -range.step).toNat

def item (range : Range) (index : Nat) : Int := range.start + range.step * index

def items (range : Range) : List Int := (List.range range.length).map range.item

def contains (range : Range) (n : Int) : Bool :=
  (n - range.start) % range.step == 0 &&
    if 0 < range.step then range.start ≤ n && n < range.stop
    else range.stop < n && n ≤ range.start

def same (a b : Range) : Bool :=
  a.length == b.length &&
    (a.length == 0 || (a.start == b.start && (a.length == 1 || a.step == b.step)))

end Range

namespace Value

def typeName : Value → String
  | none => "NoneType"
  | bool _ => "bool"
  | int _ => "int"
  | str _ => "str"
  | tuple _ => "tuple"
  | list _ => "list"
  | dict _ => "dict"
  | range _ => "range"
  | module _ => "module"
  | stream _ => "_io.StringIO"
  | function f =>
    if f.isType then "type"
    else if f.isDefined then "function"
    else "builtin_function_or_method"
  | errorType _ => "type"
  | method .. => "builtin_function_or_method"
  | error type _ => type.name
  | pause _ => "coroutine"

def className : Value → String
  | stream _ => "StringIO"
  | value => value.typeName

/-- The number that a value counts as in arithmetic. -/
def number? : Value → Option Int
  | bool true => some 1
  | bool false => some 0
  | int n => some n
  | _ => Option.none

end Value

end DocExamples.Script
