import GrantSurvey.Rulebook.Basic

/-!
# The built-in rulebook

What the calls of the platform's own classes need.
-/

namespace GrantSurvey.Rulebook.Builtin

def files : List Rule :=
  [ ⟨⟨"java/io/FileInputStream", "<init>", some "(Ljava/lang/String;)V"⟩,
      [⟨"java.io.FilePermission", .substitute "{0}" "<<ALL FILES>>", "read"⟩]⟩,
    ⟨⟨"java/io/FileInputStream", "<init>", none⟩,
      [⟨"java.io.FilePermission", .literal "<<ALL FILES>>", "read"⟩]⟩,
    ⟨⟨"java/io/FileReader", "<init>", some "(Ljava/lang/String;)V"⟩,
      [⟨"java.io.FilePermission", .substitute "{0}" "<<ALL FILES>>", "read"⟩]⟩,
    ⟨⟨"java/io/FileReader", "<init>", none⟩,
      [⟨"java.io.FilePermission", .literal "<<ALL FILES>>", "read"⟩]⟩,
    ⟨⟨"java/io/FileOutputStream", "<init>", some "(Ljava/lang/String;)V"⟩,
      [⟨"java.io.FilePermission", .substitute "{0}" "<<ALL FILES>>", "write"⟩]⟩,
    ⟨⟨"java/io/FileOutputStream", "<init>", some "(Ljava/lang/String;Z)V"⟩,
      [⟨"java.io.FilePermission", .substitute "{0}" "<<ALL FILES>>", "write"⟩]⟩,
    ⟨⟨"java/io/FileOutputStream", "<init>", none⟩,
      [⟨"java.io.FilePermission", .literal "<<ALL FILES>>", "write"⟩]⟩,
    ⟨⟨"java/io/FileWriter", "<init>", some "(Ljava/lang/String;)V"⟩,
      [⟨"java.io.FilePermission", .substitute "{0}" "<<ALL FILES>>", "write"⟩]⟩,
    ⟨⟨"java/io/FileWriter", "<init>", some "(Ljava/lang/String;Z)V"⟩,
      [⟨"java.io.FilePermission", .substitute "{0}" "<<ALL FILES>>", "write"⟩]⟩,
    ⟨⟨"java/io/FileWriter", "<init>", none⟩,
      [⟨"java.io.FilePermission", .literal "<<ALL FILES>>", "write"⟩]⟩,
    ⟨⟨"java/io/RandomAccessFile", "<init>", some "(Ljava/lang/String;Ljava/lang/String;)V"⟩,
      [⟨"java.io.FilePermission", .substitute "{0}" "<<ALL FILES>>", "read,write"⟩]⟩,
    ⟨⟨"java/io/RandomAccessFile", "<init>", none⟩,
      [⟨"java.io.FilePermission", .literal "<<ALL FILES>>", "read,write"⟩]⟩,
    ⟨⟨"java/io/File", "delete", none⟩,
      [⟨"java.io.FilePermission", .literal "<<ALL FILES>>", "delete"⟩]⟩,
    ⟨⟨"java/io/File", "deleteOnExit", none⟩,
      [⟨"java.io.FilePermission", .literal "<<ALL FILES>>", "delete"⟩]⟩,
    ⟨⟨"java/io/File", "exists", none⟩,
      [⟨"java.io.FilePermission", .literal "<<ALL FILES>>", "read"⟩]⟩,
    ⟨⟨"java/io/File", "canRead", none⟩,
      [⟨"java.io.FilePermission", .literal "<<ALL FILES>>", "read"⟩]⟩,
    ⟨⟨"java/io/File", "isDirectory", none⟩,
      [⟨"java.io.FilePermission", .literal "<<ALL FILES>>", "read"⟩]⟩,
    ⟨⟨"java/io/File", "isFile", none⟩,
      [⟨"java.io.FilePermission", .literal "<<ALL FILES>>", "read"⟩]⟩,
    ⟨⟨"java/io/File", "length", none⟩,
      [⟨"java.io.FilePermission", .literal "<<ALL FILES>>", "read"⟩]⟩,
    ⟨⟨"java/io/File", "lastModified", none⟩,
      [⟨"java.io.FilePermission", .literal "<<ALL FILES>>", "read"⟩]⟩,
    ⟨⟨"java/io/File", "list", none⟩,
      [⟨"java.io.FilePermission", .literal "<<ALL FILES>>", "read"⟩]⟩,
    ⟨⟨"java/io/File", "listFiles", none⟩,
      [⟨"java.io.FilePermission", .literal "<<ALL FILES>>", "read"⟩]⟩,
    ⟨⟨"java/io/File", "createNewFile", none⟩,
      [⟨"java.io.FilePermission", .literal "<<ALL FILES>>", "write"⟩]⟩,
    ⟨⟨"java/io/File", "mkdir", none⟩,
      [⟨"java.io.FilePermission", .literal "<<ALL FILES>>", "write"⟩]⟩,
    ⟨⟨"java/io/File", "mkdirs", none⟩,
      [⟨"java.io.FilePermission", .literal "<<ALL FILES>>", "write"⟩]⟩,
    ⟨⟨"java/io/File", "renameTo", none⟩,
      [⟨"java.io.FilePermission", .literal "<<ALL FILES>>", "write"⟩]⟩,
    ⟨⟨"java/io/File", "setReadOnly", none⟩,
      [⟨"java.io.FilePermission", .literal "<<ALL FILES>>", "write"⟩]⟩,
    ⟨⟨"java/io/File", "setLastModified", none⟩,
      [⟨"java.io.FilePermission", .literal "<<ALL FILES>>", "write"⟩]⟩,
    ⟨⟨"java/io/File", "createTempFile", none⟩,
      [⟨"java.io.FilePermission", .literal "<<ALL FILES>>", "write"⟩]⟩,
    ⟨⟨"java/nio/file/Files", "newInputStream", none⟩,
      [⟨"java.io.FilePermission", .literal "<<ALL FILES>>", "read"⟩]⟩,
    ⟨⟨"java/nio/file/Files", "newBufferedReader", none⟩,
      [⟨"java.io.FilePermission", .literal "<<ALL FILES>>", "read"⟩]⟩,
    ⟨⟨"java/nio/file/Files", "readAllBytes", none⟩,
      [⟨"java.io.FilePermission", .literal "<<ALL FILES>>", "read"⟩]⟩,
    ⟨⟨"java/nio/file/Files", "readAllLines", none⟩,
      [⟨"java.io.FilePermission", .literal "<<ALL FILES>>", "read"⟩]⟩,
    ⟨⟨"java/nio/file/Files", "readString", none⟩,
      [⟨"java.io.FilePermission", .literal "<<ALL FILES>>", "read"⟩]⟩,
    ⟨⟨"java/nio/file/Files", "lines", none⟩,
      [⟨"java.io.FilePermission", .literal "<<ALL FILES>>", "read"⟩]⟩,
    ⟨⟨"java/nio/file/Files", "exists", none⟩,
      [⟨"java.io.FilePermission", .literal "<<ALL FILES>>", "read"⟩]⟩,
    ⟨⟨"java/nio/file/Files", "isReadable", none⟩,
      [⟨"java.io.FilePermission", .literal "<<ALL FILES>>", "read"⟩]⟩,
    ⟨⟨"java/nio/file/Files", "size", none⟩,
      [⟨"java.io.FilePermission", .literal "<<ALL FILES>>", "read"⟩]⟩,
    ⟨⟨"java/nio/file/Files", "list", none⟩,
      [⟨"java.io.FilePermission", .literal "<<ALL FILES>>", "read"⟩]⟩,
    ⟨⟨"java/nio/file/Files", "walk", none⟩,
      [⟨"java.io.FilePermission", .literal "<<ALL FILES>>", "read"⟩]⟩,
    ⟨⟨"java/nio/file/Files", "newDirectoryStream", none⟩,
      [⟨"java.io.FilePermission", .literal "<<ALL FILES>>", "read"⟩]⟩,
    ⟨⟨"java/nio/file/Files", "newOutputStream", none⟩,
      [⟨"java.io.FilePermission", .literal "<<ALL FILES>>", "write"⟩]⟩,
    ⟨⟨"java/nio/file/Files", "newBufferedWriter", none⟩,
      [⟨"java.io.FilePermission", .literal "<<ALL FILES>>", "write"⟩]⟩,
    ⟨⟨"java/nio/file/Files", "write", none⟩,
      [⟨"java.io.FilePermission", .literal "<<ALL FILES>>", "write"⟩]⟩,
    ⟨⟨"java/nio/file/Files", "writeString", none⟩,
      [⟨"java.io.FilePermission", .literal "<<ALL FILES>>", "write"⟩]⟩,
    ⟨⟨"java/nio/file/Files", "createFile", none⟩,
      [⟨"java.io.FilePermission", .literal "<<ALL FILES>>", "write"⟩]⟩,
    ⟨⟨"java/nio/file/Files", "createDirectory", none⟩,
      [⟨"java.io.FilePermission", .literal "<<ALL FILES>>", "write"⟩]⟩,
    ⟨⟨"java/nio/file/Files", "createDirectories", none⟩,
      [⟨"java.io.FilePermission", .literal "<<ALL FILES>>", "write"⟩]⟩,
    ⟨⟨"java/nio/file/Files", "createTempFile", none⟩,
      [⟨"java.io.FilePermission", .literal "<<ALL FILES>>", "write"⟩]⟩,
    ⟨⟨"java/nio/file/Files", "createTempDirectory", none⟩,
      [⟨"java.io.FilePermission", .literal "<<ALL FILES>>", "write"⟩]⟩,
    ⟨⟨"java/nio/file/Files", "delete", none⟩,
      [⟨"java.io.FilePermission", .literal "<<ALL FILES>>", "delete"⟩]⟩,
    ⟨⟨"java/nio/file/Files", "deleteIfExists", none⟩,
      [⟨"java.io.FilePermission", .literal "<<ALL FILES>>", "delete"⟩]⟩,
    ⟨⟨"java/nio/file/Files", "copy", none⟩,
      [⟨"java.io.FilePermission", .literal "<<ALL FILES>>", "read"⟩,
       ⟨"java.io.FilePermission", .literal "<<ALL FILES>>", "write"⟩]⟩,
    ⟨⟨"java/nio/file/Files", "move", none⟩,
      [⟨"java.io.FilePermission", .literal "<<ALL FILES>>", "write"⟩,
       ⟨"java.io.FilePermission", .literal "<<ALL FILES>>", "delete"⟩]⟩,
    ⟨⟨"java/lang/Runtime", "exec", none⟩,
      [⟨"java.io.FilePermission", .literal "<<ALL FILES>>", "execute"⟩]⟩,
    ⟨⟨"java/lang/ProcessBuilder", "start", some "()Ljava/lang/Process;"⟩,
      [⟨"java.io.FilePermission", .literal "<<ALL FILES>>", "execute"⟩]⟩ ]

def runtime : List Rule :=
  [ ⟨⟨"java/io/FileInputStream", "<init>", some "(Ljava/io/FileDescriptor;)V"⟩,
      [⟨"java.lang.RuntimePermission", .literal "readFileDescriptor", ""⟩]⟩,
    ⟨⟨"java/io/FileReader", "<init>", some "(Ljava/io/FileDescriptor;)V"⟩,
      [⟨"java.lang.RuntimePermission", .literal "readFileDescriptor", ""⟩]⟩,
    ⟨⟨"java/io/FileOutputStream", "<init>", some "(Ljava/io/FileDescriptor;)V"⟩,
      [⟨"java.lang.RuntimePermission", .literal "writeFileDescriptor", ""⟩]⟩,
    ⟨⟨"java/io/FileWriter", "<init>", some "(Ljava/io/FileDescriptor;)V"⟩,
      [⟨"java.lang.RuntimePermission", .literal "writeFileDescriptor", ""⟩]⟩,
    ⟨⟨"java/lang/System", "getenv", some "(Ljava/lang/String;)Ljava/lang/String;"⟩,
      [⟨"java.lang.RuntimePermission", .substitute "getenv.{0}" "getenv.*", ""⟩]⟩,
    ⟨⟨"java/lang/System", "getenv", some "()Ljava/util/Map;"⟩,
      [⟨"java.lang.RuntimePermission", .literal "getenv.*", ""⟩]⟩,
    ⟨⟨"java/lang/System", "exit", some "(I)V"⟩,
      [⟨"java.lang.RuntimePermission", .substitute "exitVM.{0}" "exitVM.*", ""⟩]⟩,
    ⟨⟨"java/lang/Runtime", "exit", some "(I)V"⟩,
      [⟨"java.lang.RuntimePermission", .substitute "exitVM.{0}" "exitVM.*", ""⟩]⟩,
    ⟨⟨"java/lang/Runtime", "halt", some "(I)V"⟩,
      [⟨"java.lang.RuntimePermission", .substitute "exitVM.{0}" "exitVM.*", ""⟩]⟩,
    ⟨⟨"java/lang/Runtime", "addShutdownHook", some "(Ljava/lang/Thread;)V"⟩,
      [⟨"java.lang.RuntimePermission", .literal "shutdownHooks", ""⟩]⟩,
    ⟨⟨"java/lang/Runtime", "removeShutdownHook", some "(Ljava/lang/Thread;)Z"⟩,
      [⟨"java.lang.RuntimePermission", .literal "shutdownHooks", ""⟩]⟩,
    ⟨⟨"java/lang/System", "setSecurityManager", some "(Ljava/lang/SecurityManager;)V"⟩,
      [⟨"java.lang.RuntimePermission", .literal "setSecurityManager", ""⟩]⟩,
    ⟨⟨"java/lang/System", "setIn", some "(Ljava/io/InputStream;)V"⟩,
      [⟨"java.lang.RuntimePermission", .literal "setIO", ""⟩]⟩,
    ⟨⟨"java/lang/System", "setOut", some "(Ljava/io/PrintStream;)V"⟩,
      [⟨"java.lang.RuntimePermission", .literal "setIO", ""⟩]⟩,
    ⟨⟨"java/lang/System", "setErr", some "(Ljava/io/PrintStream;)V"⟩,
      [⟨"java.lang.RuntimePermission", .literal "setIO", ""⟩]⟩,
    ⟨⟨"java/lang/System", "loadLibrary", some "(Ljava/lang/String;)V"⟩,
      [⟨"java.lang.RuntimePermission", .substitute "loadLibrary.{0}" "loadLibrary.*", ""⟩]⟩,
    ⟨⟨"java/lang/System", "load", some "(Ljava/lang/String;)V"⟩,
      [⟨"java.lang.RuntimePermission", .substitute "loadLibrary.{0}" "loadLibrary.*", ""⟩]⟩,
    ⟨⟨"java/lang/Runtime", "loadLibrary", some "(Ljava/lang/String;)V"⟩,
      [⟨"java.lang.RuntimePermission", .substitute "loadLibrary.{0}" "loadLibrary.*", ""⟩]⟩,
    ⟨⟨"java/lang/Runtime", "load", some "(Ljava/lang/String;)V"⟩,
      [⟨"java.lang.RuntimePermission", .substitute "loadLibrary.{0}" "loadLibrary.*", ""⟩]⟩,
    ⟨⟨"java/lang/Thread", "setContextClassLoader", some "(Ljava/lang/ClassLoader;)V"⟩,
      [⟨"java.lang.RuntimePermission", .literal "setContextClassLoader", ""⟩]⟩,
    ⟨⟨"java/lang/Thread", "getContextClassLoader", some "()Ljava/lang/ClassLoader;"⟩,
      [⟨"java.lang.RuntimePermission", .literal "getClassLoader", ""⟩]⟩,
    ⟨⟨"java/lang/Class", "getClassLoader", some "()Ljava/lang/ClassLoader;"⟩,
      [⟨"java.lang.RuntimePermission", .literal "getClassLoader", ""⟩]⟩,
    ⟨⟨"java/lang/ClassLoader", "getSystemClassLoader", some "()Ljava/lang/ClassLoader;"⟩,
      [⟨"java.lang.RuntimePermission", .literal "getClassLoader", ""⟩]⟩,
    ⟨⟨"java/lang/ClassLoader", "getParent", some "()Ljava/lang/ClassLoader;"⟩,
      [⟨"java.lang.RuntimePermission", .literal "getClassLoader", ""⟩]⟩,
    ⟨⟨"java/lang/ClassLoader", "<init>", none⟩,
      [⟨"java.lang.RuntimePermission", .literal "createClassLoader", ""⟩]⟩,
    ⟨⟨"java/net/URLClassLoader", "<init>", none⟩,
      [⟨"java.lang.RuntimePermission", .literal "createClassLoader", ""⟩]⟩,
    ⟨⟨"java/net/URLClassLoader", "newInstance", none⟩,
      [⟨"java.lang.RuntimePermission", .literal "createClassLoader", ""⟩]⟩,
    ⟨⟨"java/lang/Class", "forName", some "(Ljava/lang/String;ZLjava/lang/ClassLoader;)Ljava/lang/Class;"⟩,
      [⟨"java.lang.RuntimePermission", .literal "getClassLoader", ""⟩]⟩,
    ⟨⟨"java/lang/Class", "getProtectionDomain", some "()Ljava/security/ProtectionDomain;"⟩,
      [⟨"java.lang.RuntimePermission", .literal "getProtectionDomain", ""⟩]⟩,
    ⟨⟨"sun/misc/Unsafe", "getUnsafe", some "()Lsun/misc/Unsafe;"⟩,
      [⟨"java.lang.RuntimePermission", .literal "accessClassInPackage.sun.misc", ""⟩]⟩,
    ⟨⟨"java/lang/Class", "getDeclaredMethods", none⟩,
      [⟨"java.lang.RuntimePermission", .literal "accessDeclaredMembers", ""⟩]⟩,
    ⟨⟨"java/lang/Class", "getDeclaredMethod", none⟩,
      [⟨"java.lang.RuntimePermission", .literal "accessDeclaredMembers", ""⟩]⟩,
    ⟨⟨"java/lang/Class", "getDeclaredFields", none⟩,
      [⟨"java.lang.RuntimePermission", .literal "accessDeclaredMembers", ""⟩]⟩,
    ⟨⟨"java/lang/Class", "getDeclaredField", none⟩,
      [⟨"java.lang.RuntimePermission", .literal "accessDeclaredMembers", ""⟩]⟩,
    ⟨⟨"java/lang/Class", "getDeclaredConstructors", none⟩,
      [⟨"java.lang.RuntimePermission", .literal "accessDeclaredMembers", ""⟩]⟩,
    ⟨⟨"java/lang/Class", "getDeclaredConstructor", none⟩,
      [⟨"java.lang.RuntimePermission", .literal "accessDeclaredMembers", ""⟩]⟩,
    ⟨⟨"java/lang/Class", "getDeclaredClasses", none⟩,
      [⟨"java.lang.RuntimePermission", .literal "accessDeclaredMembers", ""⟩]⟩,
    ⟨⟨"java/net/URL", "setURLStreamHandlerFactory", some "(Ljava/net/URLStreamHandlerFactory;)V"⟩,
      [⟨"java.lang.RuntimePermission", .literal "setFactory", ""⟩]⟩,
    ⟨⟨"java/net/Socket", "setSocketImplFactory", some "(Ljava/net/SocketImplFactory;)V"⟩,
      [⟨"java.lang.RuntimePermission", .literal "setFactory", ""⟩]⟩ ]

def network : List Rule :=
  [ ⟨⟨"java/net/Socket", "<init>", some "(Ljava/lang/String;I)V"⟩,
      [⟨"java.net.SocketPermission", .substitute "{0}:{1}" "*", "connect,resolve"⟩]⟩,
    ⟨⟨"java/net/Socket", "<init>", none⟩,
      [⟨"java.net.SocketPermission", .literal "*", "connect,resolve"⟩]⟩,
    ⟨⟨"java/net/Socket", "connect", none⟩,
      [⟨"java.net.SocketPermission", .literal "*", "connect,resolve"⟩]⟩,
    ⟨⟨"java/net/ServerSocket", "<init>", some "(I)V"⟩,
      [⟨"java.net.SocketPermission", .substitute "localhost:{0}" "localhost:*", "listen"⟩]⟩,
    ⟨⟨"java/net/ServerSocket", "<init>", none⟩,
      [⟨"java.net.SocketPermission", .literal "localhost:*", "listen"⟩]⟩,
    ⟨⟨"java/net/ServerSocket", "accept", some "()Ljava/net/Socket;"⟩,
      [⟨"java.net.SocketPermission", .literal "*", "accept"⟩]⟩,
    ⟨⟨"java/net/DatagramSocket", "<init>", some "(I)V"⟩,
      [⟨"java.net.SocketPermission", .substitute "localhost:{0}" "localhost:*", "listen"⟩]⟩,
    ⟨⟨"java/net/DatagramSocket", "<init>", none⟩,
      [⟨"java.net.SocketPermission", .literal "localhost:*", "listen"⟩]⟩,
    ⟨⟨"java/net/DatagramSocket", "send", some "(Ljava/net/DatagramPacket;)V"⟩,
      [⟨"java.net.SocketPermission", .literal "*", "connect,resolve"⟩]⟩,
    ⟨⟨"java/net/DatagramSocket", "receive", some "(Ljava/net/DatagramPacket;)V"⟩,
      [⟨"java.net.SocketPermission", .literal "*", "accept,resolve"⟩]⟩,
    ⟨⟨"java/net/InetAddress", "getByName", some "(Ljava/lang/String;)Ljava/net/InetAddress;"⟩,
      [⟨"java.net.SocketPermission", .substitute "{0}" "*", "resolve"⟩]⟩,
    ⟨⟨"java/net/InetAddress", "getAllByName", some "(Ljava/lang/String;)[Ljava/net/InetAddress;"⟩,
      [⟨"java.net.SocketPermission", .substitute "{0}" "*", "resolve"⟩]⟩,
    ⟨⟨"java/net/URL", "openConnection", none⟩,
      [⟨"java.net.SocketPermission", .literal "*", "connect,resolve"⟩]⟩,
    ⟨⟨"java/net/URL", "openStream", some "()Ljava/io/InputStream;"⟩,
      [⟨"java.net.SocketPermission", .literal "*", "connect,resolve"⟩]⟩,
    ⟨⟨"java/net/Authenticator", "setDefault", some "(Ljava/net/Authenticator;)V"⟩,
      [⟨"java.net.NetPermission", .literal "setDefaultAuthenticator", ""⟩]⟩,
    ⟨⟨"java/net/ProxySelector", "setDefault", some "(Ljava/net/ProxySelector;)V"⟩,
      [⟨"java.net.NetPermission", .literal "setProxySelector", ""⟩]⟩,
    ⟨⟨"java/net/ProxySelector", "getDefault", some "()Ljava/net/ProxySelector;"⟩,
      [⟨"java.net.NetPermission", .literal "getProxySelector", ""⟩]⟩,
    ⟨⟨"java/net/CookieHandler", "setDefault", some "(Ljava/net/CookieHandler;)V"⟩,
      [⟨"java.net.NetPermission", .literal "setCookieHandler", ""⟩]⟩,
    ⟨⟨"java/net/CookieHandler", "getDefault", some "()Ljava/net/CookieHandler;"⟩,
      [⟨"java.net.NetPermission", .literal "getCookieHandler", ""⟩]⟩,
    ⟨⟨"java/net/ResponseCache", "setDefault", some "(Ljava/net/ResponseCache;)V"⟩,
      [⟨"java.net.NetPermission", .literal "setResponseCache", ""⟩]⟩ ]

def settings : List Rule :=
  [ ⟨⟨"java/lang/System", "getProperty", some "(Ljava/lang/String;)Ljava/lang/String;"⟩,
      [⟨"java.util.PropertyPermission", .substitute "{0}" "*", "read"⟩]⟩,
    ⟨⟨"java/lang/System", "getProperty", some "(Ljava/lang/String;Ljava/lang/String;)Ljava/lang/String;"⟩,
      [⟨"java.util.PropertyPermission", .substitute "{0}" "*", "read"⟩]⟩,
    ⟨⟨"java/lang/System", "setProperty", some "(Ljava/lang/String;Ljava/lang/String;)Ljava/lang/String;"⟩,
      [⟨"java.util.PropertyPermission", .substitute "{0}" "*", "write"⟩]⟩,
    ⟨⟨"java/lang/System", "clearProperty", some "(Ljava/lang/String;)Ljava/lang/String;"⟩,
      [⟨"java.util.PropertyPermission", .substitute "{0}" "*", "write"⟩]⟩,
    ⟨⟨"java/lang/System", "getProperties", some "()Ljava/util/Properties;"⟩,
      [⟨"java.util.PropertyPermission", .literal "*", "read,write"⟩]⟩,
    ⟨⟨"java/lang/System", "setProperties", some "(Ljava/util/Properties;)V"⟩,
      [⟨"java.util.PropertyPermission", .literal "*", "read,write"⟩]⟩,
    ⟨⟨"java/lang/Integer", "getInteger", none⟩,
      [⟨"java.util.PropertyPermission", .substitute "{0}" "*", "read"⟩]⟩,
    ⟨⟨"java/lang/Long", "getLong", none⟩,
      [⟨"java.util.PropertyPermission", .substitute "{0}" "*", "read"⟩]⟩,
    ⟨⟨"java/lang/Boolean", "getBoolean", some "(Ljava/lang/String;)Z"⟩,
      [⟨"java.util.PropertyPermission", .substitute "{0}" "*", "read"⟩]⟩,
    ⟨⟨"java/util/Locale", "setDefault", none⟩,
      [⟨"java.util.PropertyPermission", .literal "user.language", "write"⟩]⟩,
    ⟨⟨"java/util/TimeZone", "setDefault", some "(Ljava/util/TimeZone;)V"⟩,
      [⟨"java.util.PropertyPermission", .literal "user.timezone", "write"⟩]⟩,
    ⟨⟨"java/util/logging/LogManager", "reset", some "()V"⟩,
      [⟨"java.util.logging.LoggingPermission", .literal "control", ""⟩]⟩,
    ⟨⟨"java/util/logging/LogManager", "readConfiguration", none⟩,
      [⟨"java.util.logging.LoggingPermission", .literal "control", ""⟩]⟩,
    ⟨⟨"java/util/logging/Logger", "setLevel", some "(Ljava/util/logging/Level;)V"⟩,
      [⟨"java.util.logging.LoggingPermission", .literal "control", ""⟩]⟩,
    ⟨⟨"java/util/logging/Logger", "addHandler", some "(Ljava/util/logging/Handler;)V"⟩,
      [⟨"java.util.logging.LoggingPermission", .literal "control", ""⟩]⟩,
    ⟨⟨"java/util/logging/Logger", "removeHandler", some "(Ljava/util/logging/Handler;)V"⟩,
      [⟨"java.util.logging.LoggingPermission", .literal "control", ""⟩]⟩,
    ⟨⟨"java/util/logging/Logger", "setUseParentHandlers", some "(Z)V"⟩,
      [⟨"java.util.logging.LoggingPermission", .literal "control", ""⟩]⟩,
    ⟨⟨"java/util/logging/Logger", "setParent", some "(Ljava/util/logging/Logger;)V"⟩,
      [⟨"java.util.logging.LoggingPermission", .literal "control", ""⟩]⟩ ]

def security : List Rule :=
  [ ⟨⟨"java/lang/reflect/AccessibleObject", "setAccessible", some "(Z)V"⟩,
      [⟨"java.lang.reflect.ReflectPermission", .literal "suppressAccessChecks", ""⟩]⟩,
    ⟨⟨"java/lang/reflect/Field", "setAccessible", some "(Z)V"⟩,
      [⟨"java.lang.reflect.ReflectPermission", .literal "suppressAccessChecks", ""⟩]⟩,
    ⟨⟨"java/lang/reflect/Method", "setAccessible", some "(Z)V"⟩,
      [⟨"java.lang.reflect.ReflectPermission", .literal "suppressAccessChecks", ""⟩]⟩,
    ⟨⟨"java/lang/reflect/Constructor", "setAccessible", some "(Z)V"⟩,
      [⟨"java.lang.reflect.ReflectPermission", .literal "suppressAccessChecks", ""⟩]⟩,
    ⟨⟨"java/lang/reflect/AccessibleObject", "setAccessible", some "([Ljava/lang/reflect/AccessibleObject;Z)V"⟩,
      [⟨"java.lang.reflect.ReflectPermission", .literal "suppressAccessChecks", ""⟩]⟩,
    ⟨⟨"java/lang/reflect/AccessibleObject", "trySetAccessible", some "()Z"⟩,
      [⟨"java.lang.reflect.ReflectPermission", .literal "suppressAccessChecks", ""⟩]⟩,
    ⟨⟨"java/security/Security", "getProperty", some "(Ljava/lang/String;)Ljava/lang/String;"⟩,
      [⟨"java.security.SecurityPermission", .substitute "getProperty.{0}" "getProperty.*", ""⟩]⟩,
    ⟨⟨"java/security/Security", "setProperty", some "(Ljava/lang/String;Ljava/lang/String;)V"⟩,
      [⟨"java.security.SecurityPermission", .substitute "setProperty.{0}" "setProperty.*", ""⟩]⟩,
    ⟨⟨"java/security/Security", "addProvider", some "(Ljava/security/Provider;)I"⟩,
      [⟨"java.security.SecurityPermission", .literal "insertProvider", ""⟩]⟩,
    ⟨⟨"java/security/Security", "insertProviderAt", some "(Ljava/security/Provider;I)I"⟩,
      [⟨"java.security.SecurityPermission", .literal "insertProvider", ""⟩]⟩,
    ⟨⟨"java/security/Security", "removeProvider", some "(Ljava/lang/String;)V"⟩,
      [⟨"java.security.SecurityPermission", .substitute "removeProvider.{0}" "removeProvider.*", ""⟩]⟩,
    ⟨⟨"java/security/Policy", "getPolicy", some "()Ljava/security/Policy;"⟩,
      [⟨"java.security.SecurityPermission", .literal "getPolicy", ""⟩]⟩,
    ⟨⟨"java/security/Policy", "setPolicy", some "(Ljava/security/Policy;)V"⟩,
      [⟨"java.security.SecurityPermission", .literal "setPolicy", ""⟩]⟩,
    ⟨⟨"javax/security/auth/Subject", "doAs", none⟩,
      [⟨"javax.security.auth.AuthPermission", .literal "doAs", ""⟩]⟩,
    ⟨⟨"javax/security/auth/Subject", "doAsPrivileged", none⟩,
      [⟨"javax.security.auth.AuthPermission", .literal "doAsPrivileged", ""⟩]⟩,
    ⟨⟨"javax/security/auth/Subject", "getSubject", some "(Ljava/security/AccessControlContext;)Ljavax/security/auth/Subject;"⟩,
      [⟨"javax.security.auth.AuthPermission", .literal "getSubject", ""⟩]⟩,
    ⟨⟨"java/io/ObjectOutputStream", "enableReplaceObject", some "(Z)Z"⟩,
      [⟨"java.io.SerializablePermission", .literal "enableSubstitution", ""⟩]⟩,
    ⟨⟨"java/io/ObjectInputStream", "enableResolveObject", some "(Z)Z"⟩,
      [⟨"java.io.SerializablePermission", .literal "enableSubstitution", ""⟩]⟩,
    ⟨⟨"java/io/ObjectInputFilter$Config", "setSerialFilter", some "(Ljava/io/ObjectInputFilter;)V"⟩,
      [⟨"java.io.SerializablePermission", .literal "serialFilter", ""⟩]⟩,
    ⟨⟨"java/awt/Toolkit", "getSystemClipboard", some "()Ljava/awt/datatransfer/Clipboard;"⟩,
      [⟨"java.awt.AWTPermission", .literal "accessClipboard", ""⟩]⟩,
    ⟨⟨"java/lang/management/ManagementFactory", "getPlatformMBeanServer", some "()Ljavax/management/MBeanServer;"⟩,
      [⟨"javax.management.MBeanServerPermission", .literal "createMBeanServer", ""⟩]⟩,
    ⟨⟨"javax/management/MBeanServerFactory", "createMBeanServer", none⟩,
      [⟨"javax.management.MBeanServerPermission", .literal "createMBeanServer", ""⟩]⟩ ]

end GrantSurvey.Rulebook.Builtin

namespace GrantSurvey.Rulebook

def builtin : Rulebook :=
  ⟨Builtin.files ++ Builtin.runtime ++ Builtin.network ++ Builtin.settings ++ Builtin.security⟩

end GrantSurvey.Rulebook
