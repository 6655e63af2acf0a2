/-
Builtin types: the names that the language's libraries and the platform provide.
They are never followed when a slice is computed, so that a mention of `String`
or `View` does not bring in every extension of those types. A project may add
names of its own, but cannot take any away.
-/

import SwiftSlice.NameSet

namespace SwiftSlice

/-- The types of the standard library. -/
def standardTypes : List String :=
  ["Any", "AnyHashable", "AnyObject", "Array", "ArraySlice", "AsyncSequence", "AsyncStream",
    "Bool", "CaseIterable", "Character", "ClosedRange", "Codable", "Collection", "Comparable",
    "ContiguousArray", "CustomDebugStringConvertible", "CustomStringConvertible", "Decodable",
    "Decoder", "Dictionary", "Double", "Encodable", "Encoder", "Equatable", "Error", "Float",
    "Hashable", "Hasher", "Identifiable", "Int", "Int16", "Int32", "Int64", "Int8",
    "IteratorProtocol", "KeyPath", "MainActor", "Never", "OptionSet", "Optional",
    "RandomAccessCollection", "Range", "RawRepresentable", "Result", "Self", "Sendable",
    "Sequence", "Set", "String", "StringProtocol", "Substring", "Task", "UInt", "UInt16",
    "UInt32", "UInt64", "UInt8", "Void", "WritableKeyPath"]

/-- The types of the Foundation framework. -/
def foundationTypes : List String :=
  ["Bundle", "CGFloat", "CGPoint", "CGRect", "CGSize", "Calendar", "Data", "Date",
    "DateComponents", "DateFormatter", "DispatchQueue", "FileManager", "JSONDecoder",
    "JSONEncoder", "Locale", "Measurement", "NSObject", "Notification", "NotificationCenter",
    "NumberFormatter", "ProcessInfo", "TimeInterval", "TimeZone", "Timer", "URL", "URLRequest",
    "URLSession", "UUID", "UserDefaults"]

/-- The types of the SwiftUI framework. -/
def interfaceTypes : List String :=
  ["Alert", "Alignment", "Angle", "Animation", "AnyView", "App", "AppStorage", "Bindable",
    "Binding", "Button", "ButtonStyle", "Capsule", "Circle", "Color", "ContentMode", "Divider",
    "Edge", "EdgeInsets", "EmptyView", "Environment", "EnvironmentObject", "EnvironmentValues",
    "FocusState", "Font", "ForEach", "Form", "GeometryProxy", "GeometryReader", "Gradient",
    "Grid", "GridItem", "Group", "HStack", "HorizontalAlignment", "Image", "Label", "LazyHGrid",
    "LazyHStack", "LazyVGrid", "LazyVStack", "LinearGradient", "List", "Menu", "Namespace",
    "NavigationLink", "NavigationSplitView", "NavigationStack", "NavigationView", "Observable",
    "ObservableObject", "ObservationIgnored", "ObservedObject", "Path", "Picker", "Preview",
    "PreviewProvider", "ProgressView", "Published", "Rectangle", "RoundedRectangle", "Scene",
    "ScenePhase", "ScrollView", "Section", "SecureField", "Shape", "ShapeStyle", "Slider",
    "Spacer", "State", "StateObject", "Stepper", "TabView", "Text", "TextField", "Toggle",
    "ToolbarItem", "ToolbarItemPlacement", "UnitPoint", "VStack", "VerticalAlignment", "View",
    "ViewBuilder", "ViewModifier", "WindowGroup", "ZStack"]

/-- The types of the application frameworks. -/
def platformTypes : List String :=
  ["AnyCancellable", "AnyPublisher", "CurrentValueSubject", "NSApplication", "NSView",
    "NSViewController", "NSViewRepresentable", "PassthroughSubject", "Published",
    "UIApplication", "UIColor", "UIFont", "UIImage", "UIView", "UIViewController",
    "UIViewControllerRepresentable", "UIViewRepresentable"]

/-- All names that need no declaration. -/
def builtinTypes : NameSet :=
  NameSet.ofList (standardTypes ++ foundationTypes ++ interfaceTypes ++ platformTypes)

/-- Holds of the builtin names and of the extra ones of a project. -/
def isBuiltinType (extra : List String) (name : String) : Bool :=
  builtinTypes.contains name || extra.contains name

/-- Extra names only ever add to the builtin ones. -/
theorem isBuiltinType_of_builtin (extra : List String) (name : String)
    (builtin : builtinTypes.contains name = true) : isBuiltinType extra name = true := by
  simp [isBuiltinType, builtin]

end SwiftSlice
