import Enrolment.Settings
import Enrolment.Settings.Problem
import Enrolment.Yaml.Document
import Enrolment.Yaml.Value

/-!
Settings read from YAML text. A field that is left out has its standard value, and fields that are
not known are passed over. A group of fields may also be written as the row of its values.
-/

namespace Enrolment

open Yaml (Anchors Node)
open Yaml.Node (fields? field? text? bare? number? truth? optionalText?)

def ProxySettings.ofNode? (anchors : Anchors) (node : Node) : Option ProxySettings := do
  let names := ["base_url", "api_key", "connect_timeout", "send_invite_email"]
  let fields ← fields? anchors names node
  let standard : ProxySettings := {}
  return {
    baseUrl := ← field? fields "base_url" standard.baseUrl fun node =>
      (text? anchors node).map String.ofList
    apiKey := ← field? fields "api_key" none (optionalText? anchors)
    connectTimeout := ← field? fields "connect_timeout" standard.connectTimeout fun node =>
      (bare? anchors "int" node).bind number?
    sendInvite := ← field? fields "send_invite_email" false fun node =>
      (bare? anchors "bool" node).bind truth? }

def SubmissionSettings.ofNode? (anchors : Anchors) (node : Node) :
    Option SubmissionSettings := do
  let fields ← fields? anchors ["concurrency", "timeout"] node
  let standard : SubmissionSettings := {}
  let number (node : Node) : Option Nat := (bare? anchors "int" node).bind number?
  return {
    concurrency := ← field? fields "concurrency" standard.concurrency number
    timeout := ← field? fields "timeout" standard.timeout number }

def InputSettings.ofNode? (anchors : Anchors) (node : Node) : Option InputSettings := do
  let fields ← fields? anchors ["delimiter"] node
  let standard : InputSettings := {}
  let one : List Char → Option Char
    | [c] => some c
    | _ => none
  return {
    delimiter := ← field? fields "delimiter" standard.delimiter fun node =>
      (text? anchors node).bind one }

namespace Settings

def ofNode? (anchors : Anchors) (node : Node) : Option Settings := do
  let fields ← fields? anchors ["proxy", "submission", "input"] node
  return {
    proxy := ← field? fields "proxy" {} (ProxySettings.ofNode? anchors)
    submission := ← field? fields "submission" {} (SubmissionSettings.ofNode? anchors)
    input := ← field? fields "input" {} (InputSettings.ofNode? anchors) }

def ofYaml? (text : String) : Option Settings := do
  match ← Yaml.document? text with
  | none => return standard
  | some root => ofNode? root.anchored root

def parse (text : String) : Except SettingsProblem Settings :=
  match ofYaml? text with
  | some settings => .ok settings
  | none => .error .unreadableText

def ofFile (content : Except FileProblem String) : Except SettingsProblem Settings :=
  match content with
  | .ok text => parse text
  | .error reason => .error (.unreadableFile reason)

end Settings
end Enrolment
